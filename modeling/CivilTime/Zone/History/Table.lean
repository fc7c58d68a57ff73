import CivilTime.Zone.History

/-!
# Histories as tables

A history is written down as a table: the observances are numbered, the first one zero, and each change names the number
of the observance that it brings (`History.ofTable`).
-/

namespace CivilTime

/-- The history with the given observances, changes as pairs of a UTC second and the number of an observance, and closing
rule. -/
def History.ofTable (first : Observance) (later : List Observance) (changes : List (Int × Nat)) (rule : ClosingRule) :
    History :=
  ⟨first, changes.map fun (second, number) => ⟨second, (first :: later).getD number first⟩, rule⟩

end CivilTime
