import Akhira.Base.Json
import Akhira.Relayer.Parser

/-!
# The table of symbols

The table is read from a JSON object of texts. `json.Unmarshal` makes a map of it, in which the
last member under a key counts, and the entries of the map are inserted into both directions of
the table in no particular order.
-/
namespace Akhira.Relayer

open Akhira.Base

/-- `bimap.NewBiMap`. -/
def newSymbolTranslator : SymbolTranslator := ⟨fun _ => none, fun _ => none⟩

/-- `bimap.Insert`. -/
def SymbolTranslator.insert (table : SymbolTranslator) (entry : String × String) :
    SymbolTranslator :=
  ⟨Function.update table.forward entry.1 (some entry.2),
    Function.update table.inverse entry.2 (some entry.1)⟩

/-- An assignment to a Go map. -/
def setEntry (entries : List (String × String)) (entry : String × String) :
    List (String × String) :=
  entries.filter (fun other => other.1 ≠ entry.1) ++ [entry]

/-- A member that is a text. -/
def textMember : List Char × Json.Value → Option (String × String)
  | (key, .text _ value) => some (String.ofList key, String.ofList value)
  | _ => none

/-- The map of an object of texts. -/
def symbolMap (jsonContents : String) : Option (List (String × String)) := do
  let members ← Json.readObject jsonContents.toList
  let entries ← members.mapM textMember
  some (entries.foldl setEntry [])

/-- The table after the entries of a map in the order of `range`. -/
def insertAll (entries : List (String × String)) : SymbolTranslator :=
  entries.foldl SymbolTranslator.insert newSymbolTranslator

/-- `NewSymbolTranslatorFromJSONBytes` may return the table. -/
def NewSymbolTranslatorFromJSONBytes (jsonContents : String) (table : SymbolTranslator) : Prop :=
  ∃ entries order, symbolMap jsonContents = some entries ∧ order.Perm entries ∧
    table = insertAll order

end Akhira.Relayer
