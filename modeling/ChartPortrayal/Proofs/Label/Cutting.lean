import ChartPortrayal.Proofs.Label.Conversions

namespace ChartPortrayal.LabelFormat

/-- A conversion with the text in front of it. -/
structure Segment where
  text : List Char
  spelling : Spelling

namespace Segment

def chars (segment : Segment) : List Char := segment.text ++ segment.spelling.chars

end Segment

/-- Whether characters start with a conversion. -/
def Begins (chars : List Char) : Prop :=
  ∃ (spelling : Spelling) (rest : List Char), chars = spelling.chars ++ rest

theorem begins_iff {char : Char} {rest : List Char} :
    Begins (char :: rest) ↔ char = '%' ∧ (conversion? rest).isSome = true := by
  constructor
  · rintro ⟨spelling, after, same⟩
    obtain ⟨percent, spelled⟩ := List.cons_eq_cons.mp same
    have read : conversion? rest = some (spelling.part, spelling.body.length) :=
      spelled ▸ spelling.conversion?_body after
    exact ⟨percent, Option.isSome_iff_exists.mpr ⟨_, read⟩⟩
  · rintro ⟨rfl, found⟩
    obtain ⟨read, found⟩ := Option.isSome_iff_exists.mp found
    obtain ⟨spelling, after, rfl⟩ := exists_spelling found
    exact ⟨spelling, after, rfl⟩

instance (chars : List Char) : Decidable (Begins chars) :=
  match chars with
  | [] => .isFalse (fun ⟨_, _, same⟩ => List.cons_ne_nil _ _ same.symm)
  | _ :: _ => decidable_of_iff' _ begins_iff

/-- Whether no conversion starts inside a text, given what follows it. -/
def Free (text following : List Char) : Prop :=
  ∀ before after, text = before ++ after → after ≠ [] → ¬ Begins (after ++ following)

theorem free_iff {text following : List Char} :
    Free text following ↔ ∀ index < text.length, ¬ Begins (text.drop index ++ following) := by
  constructor
  · intro free index inside
    have filled : text.drop index ≠ [] := fun short => Nat.not_le.mpr inside (List.drop_eq_nil_iff.mp short)
    exact free _ _ (List.take_append_drop index text).symm filled
  · rintro none before after rfl filled
    have inside : before.length < (before ++ after).length := by
      rw [List.length_append]
      exact Nat.lt_add_of_pos_right (List.length_pos_iff.mpr filled)
    have apart := none before.length inside
    rwa [List.drop_left] at apart

instance (text following : List Char) : Decidable (Free text following) := decidable_of_iff' _ free_iff

/-- A format cut into segments, each up to the end of the leftmost conversion that is left, and a text in which
none is left. -/
inductive Cut : List Char → List Segment → List Char → Prop where
  | last {text : List Char} (free : Free text []) : Cut text [] text
  | next {segment : Segment} {segments : List Segment} {last rest : List Char}
      (free : Free segment.text (segment.spelling.chars ++ rest)) (further : Cut rest segments last) :
      Cut (segment.chars ++ rest) (segment :: segments) last

/-- The parts that the segments of a cut make, with the text after them. -/
def partsOf (segments : List Segment) (last : List Char) : List FormatPart :=
  segments.flatMap (fun segment => segment.text.map .plain ++ [segment.spelling.part]) ++ last.map .plain

section Free

variable {text following : List Char}

theorem free_nil (following : List Char) : Free [] following := by
  intro before after split filled
  exact absurd (List.append_eq_nil_iff.mp split.symm).2 filled

theorem free_cons {char : Char} (free : Free text following) (other : ¬ Begins (char :: (text ++ following))) :
    Free (char :: text) following := by
  intro before after split filled
  cases before with
  | nil =>
    obtain rfl : char :: text = after := split
    exact other
  | cons _ before =>
    obtain ⟨-, split⟩ := List.cons_eq_cons.mp split
    exact free before after split filled

theorem Free.head {char : Char} (free : Free (char :: text) following) :
    ¬ Begins (char :: (text ++ following)) :=
  free [] (char :: text) rfl (List.cons_ne_nil _ _)

theorem Free.tail {char : Char} (free : Free (char :: text) following) : Free text following := by
  intro before after split filled
  exact free (char :: before) after (congrArg (char :: ·) split) filled

end Free

/-- What belongs to the part before is passed over. -/
theorem partsFrom_append (passed rest : List Char) :
    partsFrom passed.length (passed ++ rest) = partsFrom 0 rest := by
  induction passed with
  | nil => rfl
  | cons char passed induct => exact induct

theorem partsFrom_spelling (spelling : Spelling) (rest : List Char) :
    partsFrom 0 (spelling.chars ++ rest) = spelling.part :: partsFrom 0 rest := by
  change partsFrom 0 ('%' :: (spelling.body ++ rest)) = _
  simp only [partsFrom, if_true, spelling.conversion?_body, partsFrom_append]

theorem partsFrom_of_not_begins {char : Char} {rest : List Char} (other : ¬ Begins (char :: rest)) :
    partsFrom 0 (char :: rest) = .plain char :: partsFrom 0 rest := by
  rw [begins_iff, not_and] at other
  simp only [partsFrom]
  split
  case isFalse => rfl
  case isTrue percent =>
    rw [Option.not_isSome_iff_eq_none.mp (other percent)]

theorem partsFrom_free {text following : List Char} (free : Free text following) :
    partsFrom 0 (text ++ following) = text.map .plain ++ partsFrom 0 following := by
  induction text with
  | nil => rfl
  | cons char text induct =>
    have step := partsFrom_of_not_begins free.head
    rw [List.cons_append, step, induct free.tail]
    rfl

theorem Cut.partsFrom_eq {chars last : List Char} {segments : List Segment} (cut : Cut chars segments last) :
    partsFrom 0 chars = partsOf segments last := by
  induction cut with
  | @last text free =>
    calc partsFrom 0 text
      _ = partsFrom 0 (text ++ []) := by rw [List.append_nil]
      _ = text.map .plain ++ partsFrom 0 [] := partsFrom_free free
      _ = partsOf [] text := List.append_nil _
  | @next segment segments last rest free further induct =>
    calc partsFrom 0 (segment.chars ++ rest)
      _ = partsFrom 0 (segment.text ++ (segment.spelling.chars ++ rest)) := by
        rw [Segment.chars, List.append_assoc]
      _ = segment.text.map .plain ++ (segment.spelling.part :: partsOf segments last) := by
        rw [partsFrom_free free, partsFrom_spelling, induct]
      _ = partsOf (segment :: segments) last := by
        simp only [partsOf, List.flatMap_cons, List.append_assoc, List.cons_append, List.nil_append]

/-- A character that starts no conversion joins the text in front of the first one. -/
theorem Cut.cons {char : Char} {rest last : List Char} {segments : List Segment}
    (cut : Cut rest segments last) (other : ¬ Begins (char :: rest)) :
    ∃ segments last, Cut (char :: rest) segments last := by
  cases cut with
  | last free =>
    refine ⟨[], char :: rest, .last (free_cons free ?_)⟩
    rwa [List.append_nil]
  | @next segment segments last rest free further =>
    rw [Segment.chars, List.append_assoc] at other ⊢
    refine ⟨⟨char :: segment.text, segment.spelling⟩ :: segments, last, ?_⟩
    have joined : Cut _ (⟨char :: segment.text, segment.spelling⟩ :: segments) last :=
      .next (free_cons free other) further
    rwa [Segment.chars, List.append_assoc] at joined

/-- Every format can be cut. The induction is on its length, since a conversion takes many characters at once. -/
theorem exists_cut (chars : List Char) : ∃ segments last, Cut chars segments last := by
  cases chars with
  | nil => exact ⟨[], [], .last (free_nil [])⟩
  | cons char rest =>
    by_cases begins : Begins (char :: rest)
    · obtain ⟨spelling, after, spelled⟩ := begins
      have shorter : after.length < rest.length + 1 := by
        rw [← List.length_cons, spelled, Spelling.chars, List.cons_append, List.length_cons, List.length_append]
        omega
      obtain ⟨segments, last, further⟩ := exists_cut after
      rw [spelled]
      have cut : Cut (Segment.chars ⟨[], spelling⟩ ++ after) (⟨[], spelling⟩ :: segments) last :=
        .next (free_nil _) further
      exact ⟨⟨[], spelling⟩ :: segments, last, cut⟩
    · obtain ⟨segments, last, cut⟩ := exists_cut rest
      exact cut.cons begins
termination_by chars.length

end ChartPortrayal.LabelFormat
