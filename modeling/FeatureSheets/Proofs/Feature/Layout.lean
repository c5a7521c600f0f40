import FeatureSheets.Conversion
import FeatureSheets.Proofs.Feature.Line
import Mathlib.Logic.Relation

/-!
# Layout

What a document says does not depend on how it is laid out: on blank lines, comments and tags, on
the margins of its lines, and on how the lines are ended. Each such edit leaves the lines that say
something as they are, in their order (`spokenLines_of_layoutEdit`), and a reader passes over all
others (`feedAll_filter_isSpoken`).
-/

namespace FeatureSheets

open Text

/-! ## Cutting off one line -/

namespace Text

/-- A text on one line is its only line. -/
theorem lines_of_not_mem {s : Text} (h : '\n' ∉ s) : lines s = [s] :=
  List.splitOn_eq_singleton h

/-- A text is its first line, or its first line, a line feed and the rest. -/
theorem exists_first_line (s : Text) :
    ∃ first, '\n' ∉ first ∧ (s = first ∨ ∃ rest, s = first ++ '\n' :: rest) := by
  induction s with
  | nil => exact ⟨[], by simp, Or.inl rfl⟩
  | cons c s ih =>
    by_cases hc : c = '\n'
    · exact ⟨[], by simp, Or.inr ⟨s, by rw [hc]; rfl⟩⟩
    · obtain ⟨first, hfirst, hs⟩ := ih
      have hmem : '\n' ∉ c :: first := by
        simpa [Ne.symm hc] using hfirst
      refine ⟨c :: first, hmem, ?_⟩
      rcases hs with hs | ⟨rest, hs⟩
      · exact Or.inl (by rw [hs])
      · exact Or.inr ⟨rest, by rw [hs]; rfl⟩

/-- A text is its last line, or what is before it, a line feed and its last line. -/
theorem exists_last_line (s : Text) :
    ∃ last, '\n' ∉ last ∧ (s = last ∨ ∃ body, s = body ++ '\n' :: last) := by
  obtain ⟨first, hfirst, hs⟩ := exists_first_line s.reverse
  refine ⟨first.reverse, by simpa using hfirst, ?_⟩
  rcases hs with hs | ⟨rest, hs⟩
  · exact Or.inl (by rw [← hs, List.reverse_reverse])
  · refine Or.inr ⟨rest.reverse, ?_⟩
    rw [← List.reverse_reverse s, hs]
    simp

end Text

/-! ## Lines that say something -/

namespace Line

/-- Whether a line says something. -/
def isSpoken : Line → Bool
  | .silent => false
  | _ => true

/-- Whether a line is there for the human reader alone: without its margins it is empty, or it
begins with `#` or `@`. -/
def IsFiller (line : Text) : Prop :=
  ∀ c ∈ (trimLine line).head?, c = '#' ∨ c = '@'

/-- No line that says something begins as a comment or a tag does. -/
theorem read_of_isFiller {line : Text} (h : IsFiller line) : read line = .silent := by
  have hbegins : BeginsAs (trimLine line) (read line) := beginsAs_ofTrimmed (trimLine line)
  cases hread : read line with
  | silent => rfl
  | feature title =>
    rw [hread] at hbegins
    obtain ⟨r, hr, -⟩ := hbegins
    exact absurd (h 'F' (by rw [hr]; rfl)) (by decide)
  | scenario title =>
    rw [hread] at hbegins
    obtain ⟨word, hword, r, hr, -⟩ := hbegins
    have hhead : (trimLine line).head? = some 'S' := by
      rw [hr, List.head?_append, head?_of_mem_scenarioWords hword]
      rfl
    exact absurd (h 'S' hhead) (by decide)
  | examples =>
    rw [hread] at hbegins
    obtain ⟨r, hr⟩ := hbegins
    exact absurd (h 'E' (by rw [hr]; rfl)) (by decide)
  | step l =>
    rw [hread] at hbegins
    obtain ⟨k, hk⟩ := head?_of_split? hbegins.2
    cases k <;> exact absurd (h _ hk) (by decide)
  | row l =>
    rw [hread] at hbegins
    exact absurd (h '|' hbegins.2) (by decide)

end Line

/-- A reader passes over lines that say nothing. -/
theorem Reader.feedAll_filter_isSpoken (r : Reader) (lines : List Line) :
    r.feedAll (lines.filter Line.isSpoken) = r.feedAll lines := by
  induction lines generalizing r with
  | nil => rfl
  | cons l lines ih =>
    cases hl : l.isSpoken with
    | true =>
      rw [List.filter_cons_of_pos hl]
      exact ih (r.feed l)
    | false =>
      have hsilent : l = .silent := by
        cases l <;> first | rfl | cases hl
      rw [List.filter_cons_of_neg (by simp [hl]), ih, hsilent]
      rfl

namespace Feature

/-- The lines of a document that say something. -/
def spokenLines (text : Text) : List Line :=
  (linesOf text).filter Line.isSpoken

theorem parse_eq_of_spokenLines {s t : Text} (h : spokenLines s = spokenLines t) :
    parse s = parse t := by
  rw [parse, parse, ← Reader.feedAll_filter_isSpoken, ← spokenLines, h, spokenLines,
    Reader.feedAll_filter_isSpoken]

theorem spokenLines_append_cons (a b : Text) :
    spokenLines (a ++ '\n' :: b) = spokenLines a ++ spokenLines b := by
  rw [spokenLines, linesOf, lines_append_cons, List.map_append, List.filter_append]
  rfl

theorem spokenLines_of_not_mem {line : Text} (h : '\n' ∉ line) :
    spokenLines line = [Line.read line].filter Line.isSpoken := by
  rw [spokenLines, linesOf, lines_of_not_mem h]
  rfl

theorem spokenLines_of_isFiller {line : Text} (hone : '\n' ∉ line) (h : Line.IsFiller line) :
    spokenLines line = [] := by
  rw [spokenLines_of_not_mem hone, Line.read_of_isFiller h]
  rfl

/-- One line may have margins on both sides. -/
theorem spokenLines_margins {a b line : Text} (hone : '\n' ∉ line)
    (ha : ∀ c ∈ a, isMargin c = true ∧ c ≠ '\n') (hb : ∀ c ∈ b, isMargin c = true ∧ c ≠ '\n') :
    spokenLines (a ++ line ++ b) = spokenLines line := by
  have hall : '\n' ∉ a ++ line ++ b := by
    simp only [List.mem_append, not_or]
    exact ⟨⟨fun hmem => (ha _ hmem).2 rfl, hone⟩, fun hmem => (hb _ hmem).2 rfl⟩
  rw [spokenLines_of_not_mem hall, spokenLines_of_not_mem hone,
    Line.read_append_append line (fun c hc => (ha c hc).1) fun c hc => (hb c hc).1]

/-- The first line may have a margin before it. -/
theorem spokenLines_margin_append {margin : Text} (s : Text)
    (h : ∀ c ∈ margin, isMargin c = true ∧ c ≠ '\n') :
    spokenLines (margin ++ s) = spokenLines s := by
  have hline : ∀ line : Text, '\n' ∉ line →
      spokenLines (margin ++ line) = spokenLines line := by
    intro line hone
    simpa using spokenLines_margins hone h (b := []) (by simp)
  -- the margin is on the first line, and the lines after it are as they were
  obtain ⟨first, hfirst, rfl | ⟨rest, rfl⟩⟩ := exists_first_line s
  · exact hline s hfirst
  · rw [← List.append_assoc, spokenLines_append_cons, hline first hfirst,
      ← spokenLines_append_cons]

/-- The last line may have a margin after it. -/
theorem spokenLines_append_margin {margin : Text} (s : Text)
    (h : ∀ c ∈ margin, isMargin c = true ∧ c ≠ '\n') :
    spokenLines (s ++ margin) = spokenLines s := by
  have hline : ∀ line : Text, '\n' ∉ line →
      spokenLines (line ++ margin) = spokenLines line := by
    intro line hone
    simpa using spokenLines_margins hone (a := []) (by simp) h
  obtain ⟨last, hlast, rfl | ⟨body, rfl⟩⟩ := exists_last_line s
  · exact hline s hlast
  · rw [List.append_assoc, List.cons_append, spokenLines_append_cons, hline last hlast,
      ← spokenLines_append_cons]

end Feature

/-! ## Edits of the layout -/

/-- Whether a line may begin after a text. -/
def EndsLine (s : Text) : Prop :=
  s = [] ∨ s.getLast? = some '\n'

/-- Whether a line may end before a text. -/
def BeginsAfterLine (s : Text) : Prop :=
  s = [] ∨ s.head? = some '\n'

/-- One edit of the layout of a document. -/
inductive LayoutEdit : Text → Text → Prop
  /-- A blank line, a comment or a tag is put before a line. -/
  | insertLine {before after line : Text} (hbefore : EndsLine before) (hone : '\n' ∉ line)
    (hline : Line.IsFiller line) :
    LayoutEdit (before ++ after) (before ++ line ++ '\n' :: after)
  /-- A blank line, a comment or a tag is put behind the last line. -/
  | appendLine {text line : Text} (hone : '\n' ∉ line) (hline : Line.IsFiller line) :
    LayoutEdit text (text ++ '\n' :: line)
  /-- A line gets a margin at its start. -/
  | marginStart {before after margin : Text} (hbefore : EndsLine before)
    (hmargin : ∀ c ∈ margin, isMargin c = true ∧ c ≠ '\n') :
    LayoutEdit (before ++ after) (before ++ margin ++ after)
  /-- A line gets a margin at its end. -/
  | marginEnd {before after margin : Text} (hafter : BeginsAfterLine after)
    (hmargin : ∀ c ∈ margin, isMargin c = true ∧ c ≠ '\n') :
    LayoutEdit (before ++ after) (before ++ margin ++ after)
  /-- A line is ended by a carriage return and a line feed. -/
  | carriageReturn {before after : Text} :
    LayoutEdit (before ++ '\n' :: after) (before ++ '\r' :: '\n' :: after)
  /-- The last line is ended. -/
  | endLast {text : Text} : LayoutEdit text (text ++ ['\n'])

/-- Whether two documents differ in their layout alone: edits of the layout, made or undone, lead
from the one to the other. -/
def SameButLayout : Text → Text → Prop :=
  Relation.EqvGen LayoutEdit

namespace Feature

/-- What comes before the start of a line and what comes after it say what they say together. -/
theorem spokenLines_append_of_endsLine {before : Text} (h : EndsLine before) (after : Text) :
    spokenLines (before ++ after) = spokenLines before ++ spokenLines after := by
  rcases h with rfl | h
  · rfl
  · obtain ⟨body, rfl⟩ := List.getLast?_eq_some_iff.1 h
    have hempty : spokenLines [] = [] := rfl
    rw [List.append_assoc, List.singleton_append, spokenLines_append_cons,
      spokenLines_append_cons, hempty, List.append_nil]

/-- An edit of the layout leaves the lines that say something as they are. -/
theorem spokenLines_of_layoutEdit {s t : Text} (h : LayoutEdit s t) :
    spokenLines s = spokenLines t := by
  cases h with
  | @insertLine before after line hbefore hone hline =>
    rw [List.append_assoc, spokenLines_append_of_endsLine hbefore,
      spokenLines_append_of_endsLine hbefore, spokenLines_append_cons,
      spokenLines_of_isFiller hone hline, List.nil_append]
  | appendLine hone hline =>
    rw [spokenLines_append_cons, spokenLines_of_isFiller hone hline, List.append_nil]
  | @marginStart before after margin hbefore hmargin =>
    rw [List.append_assoc, spokenLines_append_of_endsLine hbefore,
      spokenLines_append_of_endsLine hbefore, spokenLines_margin_append after hmargin]
  | @marginEnd before after margin hafter hmargin =>
    rcases hafter with rfl | hafter
    · rw [List.append_nil, List.append_nil, spokenLines_append_margin before hmargin]
    · obtain ⟨rest, rfl⟩ := List.head?_eq_some_iff.1 hafter
      rw [spokenLines_append_cons, spokenLines_append_cons,
        spokenLines_append_margin before hmargin]
  | @carriageReturn before after =>
    -- a carriage return is a margin of the line that it ends
    have hmargin : ∀ c ∈ ['\r'], isMargin c = true ∧ c ≠ '\n' := by
      rw [List.forall_mem_singleton]
      decide
    rw [show before ++ '\r' :: '\n' :: after = before ++ ['\r'] ++ '\n' :: after by simp,
      spokenLines_append_cons, spokenLines_append_cons,
      spokenLines_append_margin before hmargin]
  | endLast =>
    rw [spokenLines_append_cons]
    exact (List.append_nil _).symm

/-- **Layout does not matter.** Documents that differ in their layout alone say the same, and
become the same sheets, whatever the configuration. -/
theorem parse_eq_of_sameButLayout {s t : Text} (h : SameButLayout s t) :
    parse s = parse t ∧ ∀ config, convert config s = convert config t := by
  -- one edit leaves the lines that say something, so any chain of edits does
  have hspoken : spokenLines s = spokenLines t := by
    induction h with
    | rel s t hedit => exact spokenLines_of_layoutEdit hedit
    | refl s => rfl
    | symm s t _ ih => exact ih.symm
    | trans s t u _ _ ih ih' => exact ih.trans ih'
  have hparse := parse_eq_of_spokenLines hspoken
  refine ⟨hparse, ?_⟩
  intro config
  rw [convert, convert, hparse]

/-- A byte-order mark in front, a carriage return after `Examples:` and a comment before the
headers of the table make no difference. -/
theorem parse_eq_of_sameButLayout_table :
    let opening : Text := "Scenario: A\nGiven a <x>\nExamples:".toList
    let table : Text := "| x |\n| 1 |".toList
    let s : Text := opening ++ '\n' :: table
    let t : Text := byteOrderMark :: opening ++ "\r\n".toList ++ "\t# | y |\n".toList ++ table
    SameButLayout s t ∧ parse s = parse t ∧ ∀ config, convert config s = convert config t := by
  intro opening table s t
  have hmark : ∀ c ∈ [byteOrderMark], isMargin c = true ∧ c ≠ '\n' := by
    rw [List.forall_mem_singleton]
    decide
  have hfiller : Line.IsFiller "\t# | y |".toList := by
    intro c hc
    have hhash : (trimLine "\t# | y |".toList).head? = some '#' := by decide
    rw [hhash] at hc
    exact Or.inl (Option.some.inj hc).symm
  have hstart := @LayoutEdit.marginStart [] s [byteOrderMark] (Or.inl rfl) hmark
  have hreturn := @LayoutEdit.carriageReturn (byteOrderMark :: opening) table
  have hcomment := @LayoutEdit.insertLine (byteOrderMark :: opening ++ "\r\n".toList) table
    "\t# | y |".toList (Or.inr (by decide)) (by decide) hfiller
  have hsame : SameButLayout s t :=
    .trans _ _ _ (.rel _ _ hstart) (.trans _ _ _ (.rel _ _ hreturn) (.rel _ _ hcomment))
  exact ⟨hsame, parse_eq_of_sameButLayout hsame⟩

end Feature

end FeatureSheets
