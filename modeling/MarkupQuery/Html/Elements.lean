namespace MarkupQuery.Html

/-!
# Kinds of elements

What a tag means for reading and writing depends on its name alone. The names are given here by
what they have in common.
-/

/-- Elements that have no end tag and no content. -/
def voidElements : List String :=
  ["area", "base", "br", "col", "embed", "hr", "img", "input", "link", "meta", "source", "track",
    "wbr"]

/-- Elements that take no content when they are read. Some of them are written with an end tag. -/
def contentlessElements : List String :=
  voidElements ++ ["basefont", "bgsound", "keygen", "param"]

/-- Elements whose content is text up to the end tag, taken as it stands. -/
def rawTextElements : List String :=
  ["iframe", "noembed", "noframes", "noscript", "script", "style", "xmp"]

/-- Elements whose content is text up to the end tag, with character references. -/
def referenceTextElements : List String := ["title", "textarea"]

/-- Elements whose content may begin with a line feed that does not count. -/
def lineFeedElements : List String := ["listing", "pre", "textarea"]

/-- Elements that belong to the head of a document as long as its body has not begun. -/
def metadataElements : List String :=
  ["base", "basefont", "bgsound", "link", "meta", "noframes", "noscript", "script", "style",
    "template", "title"]

/-- Tags that give the parts of a document and open nothing inside of it. -/
def documentTags : List String := ["html", "head", "body", "frameset"]

/-- Cells of a table. -/
def tableCells : List String := ["td", "th"]

/-- Groups of rows of a table. -/
def rowGroups : List String := ["tbody", "tfoot", "thead"]

/-- Elements that stand in a table, each in its place. -/
def tableParts : List String :=
  tableCells ++ rowGroups ++ ["caption", "col", "colgroup", "tr"]

/-- A table and those of its parts that hold other parts of it and nothing else. -/
def tableFrame : List String := rowGroups ++ ["table", "tr"]

/-- Headings. They do not stand in each other, and each of their end tags ends any of them. -/
def headings : List String := ["h1", "h2", "h3", "h4", "h5", "h6"]

/-- Items of a list of definitions. -/
def definitionItems : List String := ["dd", "dt"]

/-- Blocks of a page: their start tag ends a paragraph, and their end tag what is open in them. -/
def blockElements : List String :=
  ["address", "article", "aside", "blockquote", "center", "details", "dialog", "dir", "div", "dl",
    "fieldset", "figcaption", "figure", "footer", "form", "header", "hgroup", "listing", "main",
    "menu", "nav", "ol", "pre", "section", "summary", "ul"]

/-- Elements that cannot stand in a paragraph, so that their start tag ends an open one. -/
def paragraphEnders : List String :=
  blockElements ++ headings ++ definitionItems ++ ["hr", "li", "p", "plaintext", "xmp"]

/-- Remarks beside a text in `ruby`, and what goes with them. -/
def rubyParts : List String := ["rb", "rp", "rt", "rtc"]

/-- The choices of a `select`, and groups of them. -/
def choiceParts : List String := ["optgroup", "option"]

/-- Elements whose end tag may be left out in front of the end of what they stand in. -/
def impliedEnds : List String := definitionItems ++ rubyParts ++ choiceParts ++ ["li", "p"]

/-- Elements with a content of their own that formatting from outside does not go into. -/
def enclosures : List String := ["applet", "marquee", "object", "template"]

/-- Elements that an end tag of another element does not reach beyond. -/
def scopeBoundaries : List String :=
  enclosures ++ tableCells ++ ["caption", "html", "table"]

/-- Elements that structure a page. An end tag of a phrase does not reach beyond them. -/
def structuralElements : List String :=
  ["address", "applet", "area", "article", "aside", "base", "basefont", "bgsound", "blockquote",
    "body", "br", "button", "caption", "center", "col", "colgroup", "dd", "details", "dir", "div",
    "dl", "dt", "embed", "fieldset", "figcaption", "figure", "footer", "form", "frame", "frameset",
    "h1", "h2", "h3", "h4", "h5", "h6", "head", "header", "hgroup", "hr", "html", "iframe", "img",
    "input", "isindex", "keygen", "li", "link", "listing", "main", "marquee", "menu", "meta", "nav",
    "noembed", "noframes", "noscript", "object", "ol", "p", "param", "plaintext", "pre", "script",
    "section", "select", "source", "style", "summary", "table", "tbody", "td", "template",
    "textarea", "tfoot", "th", "thead", "title", "tr", "track", "ul", "wbr", "xmp"]

/-- Phrases that say how text looks. They stay in force until their own end tag. -/
def formattingElements : List String :=
  ["a", "b", "big", "code", "em", "font", "i", "nobr", "s", "small", "strike", "strong", "tt", "u"]

/-- Elements in front of which formatting in force is not resumed. -/
def unformattedElements : List String :=
  blockElements ++ headings ++ definitionItems ++ metadataElements ++ rubyParts ++
    ["hr", "iframe", "li", "noembed", "p", "param", "plaintext", "source", "table", "textarea",
      "track"]

/-- Elements that show something by themselves, so that no frames can take the body's place. -/
def visibleElements : List String :=
  definitionItems ++
    ["applet", "area", "br", "button", "embed", "hr", "iframe", "img", "input", "keygen", "li",
      "listing", "marquee", "object", "pre", "select", "table", "template", "textarea", "wbr",
      "xmp"]

/-- Elements of `svg` that hold ordinary markup. -/
def graphicHosts : List String := ["desc", "foreignobject", "title"]

/-- Elements of `math` that hold ordinary markup in a formula. -/
def formulaTexts : List String := ["mi", "mn", "mo", "ms", "mtext"]

/-- Elements of `math` that stand in its texts as well. -/
def formulaMarks : List String := ["malignmark", "mglyph"]

/-- What the encoding of an `annotation-xml` says if it holds ordinary markup. -/
def markupEncodings : List String := ["application/xhtml+xml", "text/html"]

/-- Elements that cannot stand in `svg` or `math`, so that their start tag ends it. -/
def foreignEnders : List String :=
  headings ++ definitionItems ++
    ["b", "big", "blockquote", "body", "br", "center", "code", "div", "dl", "em", "embed", "head",
      "hr", "i", "img", "li", "listing", "menu", "meta", "nobr", "ol", "p", "pre", "ruby", "s",
      "small", "span", "strong", "strike", "sub", "sup", "table", "tt", "u", "ul", "var"]

/-- Attributes of `font` that say how text looks. -/
def fontAttributes : List String := ["color", "face", "size"]

/-- Elements whose end tag alone ends `svg` or `math`, since it stands for a start tag as well. -/
def foreignEndersAtEnd : List String := ["br", "p"]

end MarkupQuery.Html
