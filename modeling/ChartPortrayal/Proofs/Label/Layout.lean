import ChartPortrayal.Label.Basic
import ChartPortrayal.Proofs.Outcome

namespace ChartPortrayal

/-- A conversion whose width can be handed on, and whose number of places if it writes any. -/
def Conversion.Fits (conversion : Conversion) : Prop :=
  conversion.width < LabelFormat.layoutLimit ∧
    (conversion.kind = .fraction → conversion.precision.getD 6 < LabelFormat.layoutLimit)

/-- A part of a format that can be laid out. -/
def FormatPart.Fits : FormatPart → Prop
  | .value conversion => conversion.Fits
  | _ => True

/-- A content whose format, if it has one, can be laid out. -/
def TextContent.Fits : TextContent → Prop
  | .formatted format _ => ∀ part ∈ LabelFormat.parts format, part.Fits
  | _ => True

variable {α : Type} [Quantity α] {error : PortrayalError}

namespace LabelFormat

theorem pad_eq_error {conversion : Conversion} {text : String} (failed : pad conversion text = .error error) :
    error = .overflow ∧ ¬ conversion.Fits := by
  unfold pad at failed
  split at failed
  · cases failed
  · next wide =>
    cases failed
    exact ⟨rfl, fun fits => wide fits.1⟩

theorem render_eq_error {conversion : Conversion} {value : String}
    (failed : render α conversion value = .error error) : error = .overflow ∧ ¬ conversion.Fits := by
  unfold render at failed
  split at failed
  · cases failed
  · next fraction =>
    split at failed
    · split at failed
      · cases failed
      · next long =>
        cases failed
        exact ⟨rfl, fun fits => long (fits.2 fraction)⟩
    · cases failed
  · cases failed

theorem fillParts_eq_error {parts : List FormatPart} {values : List String}
    (failed : fillParts α parts values = .error error) : error = .overflow ∧ ∃ part ∈ parts, ¬ part.Fits := by
  induction parts generalizing values with
  | nil => cases failed
  | cons part rest ih =>
    have later : ∀ {values}, fillParts α rest values = .error error →
        error = .overflow ∧ ∃ other ∈ part :: rest, ¬ other.Fits := by
      intro values failed
      obtain ⟨beyond, other, listed, wide⟩ := ih failed
      exact ⟨beyond, other, List.mem_cons_of_mem _ listed, wide⟩
    cases part with
    | plain char => exact later (map_eq_error_iff.mp failed)
    | percent => exact later (map_eq_error_iff.mp failed)
    | value conversion =>
      cases values with
      | nil => cases failed
      | cons value values =>
        rw [fillParts] at failed
        split at failed
        · next written rendered =>
          rcases bind_eq_error_iff.mp failed with unpadded | ⟨padded, -, failed⟩
          · obtain ⟨beyond, wide⟩ := pad_eq_error unpadded
            exact ⟨beyond, _, List.mem_cons_self, wide⟩
          · rcases bind_eq_error_iff.mp failed with unfilled | ⟨rest?, -, failed⟩
            · exact later unfilled
            · cases failed
        · cases failed
        · next cause rendered =>
          cases failed
          obtain ⟨beyond, wide⟩ := render_eq_error rendered
          exact ⟨beyond, _, List.mem_cons_self, wide⟩

end LabelFormat

namespace Label

variable {settings : Settings α} {feature : Feature α}

theorem contentText_eq_error {content : TextContent}
    (failed : contentText settings feature content = .error error) : error = .overflow ∧ ¬ content.Fits := by
  cases content with
  | formatted format attributes =>
    simp only [contentText] at failed
    split at failed
    · obtain ⟨beyond, part, listed, wide⟩ := LabelFormat.fillParts_eq_error failed
      exact ⟨beyond, fun fits => wide (fits part listed)⟩
    · cases failed
  | _ => cases failed

theorem ofCommand_eq_error {command : Command α} (failed : ofCommand settings feature command = .error error) :
    error = .overflow ∧ ∃ text, command = .showText text ∧ ¬ text.content.Fits := by
  cases command with
  | showText text =>
    simp only [ofCommand, resolve] at failed
    split at failed
    · obtain ⟨beyond, wide⟩ := contentText_eq_error (map_eq_error_iff.mp failed)
      exact ⟨beyond, text, rfl, wide⟩
    · cases failed
  | _ => cases failed

/-- Where no labels come of commands, one of them is a text whose format cannot be laid out. -/
theorem ofCommands_eq_error {commands : List (Command α)}
    (failed : ofCommands settings feature commands = .error error) :
    error = .overflow ∧ ∃ text, .showText text ∈ commands ∧ ¬ text.content.Fits := by
  obtain ⟨command, listed, failed⟩ := exists_of_mapM_eq_error (map_eq_error_iff.mp failed)
  obtain ⟨beyond, text, rfl, wide⟩ := ofCommand_eq_error failed
  exact ⟨beyond, text, listed, wide⟩

end Label

end ChartPortrayal
