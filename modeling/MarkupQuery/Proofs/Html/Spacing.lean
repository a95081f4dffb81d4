import MarkupQuery.Proofs.Html.Copying
import MarkupQuery.Proofs.Html.PlainReading
import MarkupQuery.Proofs.Tree.Trimming

namespace MarkupQuery

/-!
# Markup with room between its parts

A pretty layout writes each piece on a line of its own. The same is written, one part after the
other, of a sketch with more text in it: the end of a line and the margin of the next belong to the
text beside them, or are a text of their own where there is none. What is read of such a sketch and
copied differs from what is copied of the sketch itself only in blanks at the ends of texts.
-/

open Html Text

namespace Sketch

/-- The blanks at the start of a line. -/
def margin (indent depth : Nat) : String :=
  String.ofList (List.replicate (depth * indent) ' ')

/-- A sketch of a text, if there is any. -/
def textOf (content : String) : List Sketch :=
  if content = "" then [] else [.node (.text content) []]

mutual

/-- A sketch with each of its pieces on a line of its own. -/
def spaced (indent depth : Nat) : Sketch → Sketch
  | .node kind children =>
      .node kind
        (if children.isEmpty then
          []
        else
          allSpaced indent (depth + 1) "\n" (margin indent depth) children)

/--
Sketches with each of their pieces on a line of its own, behind a text that is still pending and in
front of a last one. A text that comes next is joined to what is pending, and so is what follows it
on its line.
-/
def allSpaced (indent depth : Nat) (pending last : String) : List Sketch → List Sketch
  | [] => textOf (pending ++ last)
  | .node (.text content) _ :: rest =>
      allSpaced indent depth (pending ++ margin indent depth ++ content ++ "\n") last rest
  | first :: rest =>
      textOf (pending ++ margin indent depth) ++
        spaced indent depth first :: allSpaced indent depth "\n" last rest

end

section Blanks

variable (indent depth : Nat)

/-- A margin has so many spaces for each level. -/
theorem toList_margin :
    (margin indent depth).toList = List.replicate (depth * indent) ' ' :=
  String.toList_ofList

/-- A margin consists of spaces. -/
theorem eq_of_mem_margin :
    ∀ c ∈ (margin indent depth).toList, c = ' ' := by
  intro c member
  rw [toList_margin] at member
  exact List.eq_of_mem_replicate member

/-- A margin is blank. -/
theorem isBlank_of_mem_margin :
    ∀ c ∈ (margin indent depth).toList, isBlank c = true := by
  intro c member
  rw [eq_of_mem_margin indent depth c member]
  decide

/-- A margin is read as it is written. -/
theorem isClean_margin : isClean (margin indent depth) = true := by
  refine List.all_eq_true.mpr fun c member => ?_
  rw [eq_of_mem_margin indent depth c member]
  decide

/-- A line end is read as it is written. -/
theorem isClean_newline : isClean "\n" = true := by
  decide

/-- Two clean texts are clean in a row. -/
theorem isClean_append
    {first second : String}
    (firstClean : isClean first = true)
    (secondClean : isClean second = true) :
    isClean (first ++ second) = true := by
  rw [isClean, String.toList_append, List.all_append, ← isClean, ← isClean, firstClean,
    secondClean]
  rfl

end Blanks

section Writing

variable (indent depth : Nat)

/-- A text is escaped character by character, so in two parts as well. -/
theorem toList_escape_append (first second : String) :
    (escape .betweenTags (first ++ second)).toList =
      (escape .betweenTags first).toList ++ (escape .betweenTags second).toList := by
  simp [escape]

/-- A margin is written as it is. -/
theorem toList_escape_margin :
    (escape .betweenTags (margin indent depth)).toList = (margin indent depth).toList := by
  have single : ∀ c ∈ (margin indent depth).toList, escapeChar .betweenTags c = [c] := by
    intro c member
    rw [eq_of_mem_margin indent depth c member]
    decide
  rw [escape, String.toList_ofList, List.flatMap_congr single, List.flatMap_singleton']

/-- A line end is not escaped. -/
theorem toList_escape_newline :
    (escape .betweenTags "\n").toList = ['\n'] := by
  decide

/-- In the pretty layout a piece stands behind its margin and in front of a line end. -/
theorem toList_write_pretty (piece : Piece) :
    ((Layout.pretty indent).write piece).toList =
      (margin indent piece.depth).toList ++ piece.content.toList ++ ['\n'] := by
  simp [Layout.write, margin]

/-- Sketches in a row are written one behind the other. -/
theorem allWritten_append (first second : List Sketch) :
    allWritten (first ++ second) = allWritten first ++ allWritten second := by
  induction first with
  | nil =>
      rfl
  | cons sketch first inductionHypothesis =>
      rw [List.cons_append, allWritten, inductionHypothesis, allWritten, List.append_assoc]

/-- A text is written escaped, and no text is written as nothing. -/
theorem allWritten_textOf (content : String) :
    allWritten (textOf content) = (escape .betweenTags content).toList := by
  unfold textOf
  split
  · next empty =>
      rw [empty]
      rfl
  · simp [allWritten, written]

mutual

/-- An element in the pretty layout is the spaced element on its line. -/
theorem flatMap_write_pieces
    (indent depth : Nat) :
    ∀ {outer : List String} {sketch : Sketch},
      sketch.Readable outer → sketch.isText = false →
        ((sketch.pieces depth).flatMap fun piece =>
            ((Layout.pretty indent).write piece).toList) =
          (margin indent depth).toList ++ (spaced indent depth sketch).written ++ ['\n']
  | _, .node (.element element) children, readable, _ => by
      obtain ⟨_, _, _, _, _, below⟩ := readable
      rw [pieces, spaced, written]
      split
      · simp [toList_write_pretty]
      split
      · simp [toList_write_pretty, allWritten]
      · rw [allWritten_allSpaced indent (depth + 1) "\n" (margin indent depth) below,
          toList_escape_newline, toList_escape_margin]
        simp [toList_write_pretty]
  | _, .node (.text _) _, _, notText => nomatch notText
  | _, .node .document _, readable, _ => readable.elim
  | _, .node (.raw _) _, readable, _ => readable.elim

/-- Spaced sketches are written as the pretty layout does. -/
theorem allWritten_allSpaced
    (indent depth : Nat)
    (pending last : String) :
    ∀ {outer : List String} {sketches : List Sketch},
      AllReadable outer sketches →
        allWritten (allSpaced indent depth pending last sketches) =
          (escape .betweenTags pending).toList ++
            ((allPieces depth sketches).flatMap fun piece =>
                ((Layout.pretty indent).write piece).toList) ++
              (escape .betweenTags last).toList
  | _, [], _ => by
      simp [allSpaced, allPieces, allWritten_textOf, toList_escape_append]
  | _, .node (.text content) _ :: rest, readable => by
      rw [allSpaced, allWritten_allSpaced indent depth _ last readable.2.1]
      simp [allPieces, pieces, toList_write_pretty, toList_escape_append, toList_escape_margin,
        toList_escape_newline]
  | _, .node (.element element) children :: rest, readable => by
      have onLine := flatMap_write_pieces indent depth readable.1 rfl
      have behind := allWritten_allSpaced indent depth "\n" last readable.2.1
      rw [allSpaced, allWritten_append, allWritten_textOf, allWritten, behind, allPieces,
        List.flatMap_append, onLine]
      · simp [toList_escape_append, toList_escape_margin, toList_escape_newline]
      · exact nofun
  | _, .node .document _ :: _, readable => readable.1.elim
  | _, .node (.raw _) _ :: _, readable => readable.1.elim

end

end Writing

section Reading

/-- A text may be put in front of sketches that do not begin with one. -/
theorem allReadable_textOf_append
    {outer : List String}
    {content : String}
    {sketches : List Sketch}
    (clean : isClean content = true)
    (readable : AllReadable outer sketches)
    (apart : beginWithText sketches = false) :
    AllReadable outer (textOf content ++ sketches) := by
  unfold textOf
  split
  · exact readable
  · next nonempty =>
      exact ⟨⟨nonempty, clean, rfl⟩, readable, fun _ => apart⟩

mutual

/-- A spaced element can be read where the element can. -/
theorem readable_spaced
    (indent depth : Nat) :
    ∀ {outer : List String} {sketch : Sketch},
      sketch.Readable outer → sketch.isText = false → (spaced indent depth sketch).Readable outer
  | outer, .node (.element element) children, readable, _ => by
      obtain ⟨known, tags, noText, fits, void, below⟩ := readable
      rw [spaced]
      refine ⟨known, tags, noText, fits, fun isVoid => ?_, ?_⟩
      · rw [void isVoid]
        rfl
      · split
        · trivial
        · exact allReadable_allSpaced indent (depth + 1) isClean_newline
            (isClean_margin indent depth) below
  | _, .node (.text _) _, _, notText => nomatch notText
  | _, .node .document _, readable, _ => readable.elim
  | _, .node (.raw _) _, readable, _ => readable.elim

/-- Spaced sketches can be read where the sketches can. -/
theorem allReadable_allSpaced
    (indent depth : Nat)
    {pending last : String}
    (pendingClean : isClean pending = true)
    (lastClean : isClean last = true) :
    ∀ {outer : List String} {sketches : List Sketch},
      AllReadable outer sketches →
        AllReadable outer (allSpaced indent depth pending last sketches)
  | outer, [], _ => by
      have none : AllReadable outer [] := trivial
      have readable := allReadable_textOf_append (isClean_append pendingClean lastClean) none rfl
      rwa [List.append_nil] at readable
  | outer, .node (.text content) children :: rest, readable => by
      obtain ⟨⟨_, clean, _⟩, later, _⟩ := readable
      have lineClean := isClean_append pendingClean (isClean_margin indent depth)
      have joinedClean := isClean_append (isClean_append lineClean clean) isClean_newline
      rw [allSpaced]
      exact allReadable_allSpaced indent depth joinedClean lastClean later
  | outer, .node (.element element) children :: rest, readable => by
      have here := readable_spaced indent depth readable.1 rfl
      have later := allReadable_allSpaced indent depth isClean_newline lastClean readable.2.1
      rw [allSpaced]
      · exact allReadable_textOf_append
          (isClean_append pendingClean (isClean_margin indent depth)) ⟨here, later, nofun⟩ rfl
      · exact nofun
  | _, .node .document _ :: _, readable => readable.1.elim
  | _, .node (.raw _) _ :: _, readable => readable.1.elim

end

end Reading

section Copying

/-- What is copied of a text depends, but for blanks, on the trimmed text. -/
theorem allTrimmed_sketches_congr
    {first second : String}
    (same : trim first.toList = trim second.toList) :
    allTrimmed (Markup.text first).sketches = allTrimmed (Markup.text second).sketches := by
  have sameBlank : isBlankText first = isBlankText second := by
    rw [Bool.eq_iff_iff, isBlankText_iff_trim, isBlankText_iff_trim, same]
  rw [Markup.sketches_text, Markup.sketches_text, sameBlank]
  split
  · rfl
  · simp [allTrimmed, trimmed, NodeKind.trimmed, same]

/-- Nothing is copied of a blank text. -/
theorem sketches_of_isBlankText
    {content : String}
    (blank : isBlankText content = true) :
    (Markup.text content).sketches = [] := by
  rw [Markup.sketches_text, if_pos blank]

/-- A text in front of other markup is copied in front of it, unless it is blank. -/
theorem allSketches_textOf_append
    (content : String)
    (sketches : List Sketch) :
    Markup.allSketches (allMarkup (textOf content ++ sketches)) =
      (Markup.text content).sketches ++ Markup.allSketches (allMarkup sketches) := by
  unfold textOf
  split
  · next empty =>
      rw [empty, sketches_of_isBlankText rfl]
      rfl
  · rfl

/-- Blanks behind a text do not count. -/
theorem allTrimmed_sketches_append
    (content : String)
    {blanks : String}
    (blank : ∀ c ∈ blanks.toList, isBlank c = true) :
    allTrimmed (Markup.text (content ++ blanks)).sketches =
      allTrimmed (Markup.text content).sketches := by
  apply allTrimmed_sketches_congr
  rw [String.toList_append, trim_append_blanks blank]

mutual

/-- Of a spaced element the same is copied, but for blanks. -/
theorem allTrimmed_sketches_spaced
    (indent depth : Nat) :
    ∀ {outer : List String} {sketch : Sketch},
      sketch.Readable outer → sketch.isText = false →
        allTrimmed (spaced indent depth sketch).markup.sketches =
          allTrimmed sketch.markup.sketches
  | _, .node (.element element) children, readable, _ => by
      obtain ⟨_, _, _, _, _, below⟩ := readable
      rw [spaced]
      split
      · next leaf =>
          rw [List.isEmpty_iff.mp leaf]
      · have inside :=
          allTrimmed_allSketches_allSpaced indent (depth + 1) "\n"
            (isBlank_of_mem_margin indent depth) below fun _ => rfl
        rw [sketches_of_isBlankText rfl] at inside
        simp only [markup, Markup.sketches, allTrimmed, trimmed, Markup.allSketches,
          List.append_nil, inside, List.nil_append]
  | _, .node (.text _) _, _, notText => nomatch notText
  | _, .node .document _, readable, _ => readable.elim
  | _, .node (.raw _) _, readable, _ => readable.elim

/-- Of spaced sketches the same is copied behind what is pending, but for blanks. -/
theorem allTrimmed_allSketches_allSpaced
    (indent depth : Nat)
    (pending : String)
    {last : String}
    (lastBlank : ∀ c ∈ last.toList, isBlank c = true) :
    ∀ {outer : List String} {sketches : List Sketch},
      AllReadable outer sketches →
        (beginWithText sketches = true → isBlankText pending = true) →
          allTrimmed
              (Markup.allSketches (allMarkup (allSpaced indent depth pending last sketches))) =
            allTrimmed (Markup.text pending).sketches ++
              allTrimmed (Markup.allSketches (allMarkup sketches))
  | _, [], _, _ => by
      have alone := allSketches_textOf_append (pending ++ last) []
      rw [List.append_nil] at alone
      rw [allSpaced, alone, allTrimmed_append, allTrimmed_sketches_append pending lastBlank]
  | outer, .node (.text content) children :: rest, readable, apart => by
      obtain ⟨_, later, separate⟩ := readable
      have pendingBlank : ∀ c ∈ pending.toList, isBlank c = true :=
        List.all_eq_true.mp (apart rfl)
      have notNext : beginWithText rest = true →
          isBlankText (pending ++ margin indent depth ++ content ++ "\n") = true := by
        rw [separate rfl]
        exact nofun
      have joined :
          trim (pending ++ margin indent depth ++ content ++ "\n").toList =
            trim content.toList := by
        simp only [String.toList_append, List.append_assoc]
        rw [trim_blanks_append pendingBlank, trim_blanks_append (isBlank_of_mem_margin _ _),
          trim_append_blanks (List.all_eq_true.mp rfl)]
      rw [allSpaced, allTrimmed_allSketches_allSpaced indent depth _ lastBlank later notNext,
        allTrimmed_sketches_congr joined, sketches_of_isBlankText (apart rfl), ← allTrimmed_append]
      rfl
  | outer, .node (.element element) children :: rest, readable, _ => by
      have here := allTrimmed_sketches_spaced indent depth readable.1 rfl
      have later :=
        allTrimmed_allSketches_allSpaced indent depth "\n" lastBlank readable.2.1 fun _ => rfl
      rw [sketches_of_isBlankText rfl] at later
      rw [allSpaced, allSketches_textOf_append, allTrimmed_append, allMarkup, Markup.allSketches,
        allTrimmed_append, here, later,
        allTrimmed_sketches_append pending (isBlank_of_mem_margin indent depth), allMarkup,
        Markup.allSketches, allTrimmed_append]
      · rfl
      · exact nofun
  | _, .node .document _ :: _, readable, _ => readable.1.elim
  | _, .node (.raw _) _ :: _, readable, _ => readable.1.elim

end

end Copying

end Sketch

end MarkupQuery
