import Registrar.Decimal.Whole

/-!
# Documents

A `Value` is what a configuration file or a record in a file says, whichever notation it is written
in. Tables keep the order of their entries. The notations are those of JSON and TOML with the rules
of their readers, `serde_json` and `toml`.
-/

namespace Registrar.Document

inductive Value
  | null
  | bool (b : Bool)
  | integer (n : Int)
  | float (x : Float)
  | text (s : String)
  | list (items : List Value)
  | table (entries : List (String × Value))
  /-- A date or a time. -/
  | moment
  /-- A text or a number without a value, harmless as long as nobody reads it. -/
  | unreadable
  deriving Repr

/-- Whether nothing in a value is unreadable, and lists and tables lie at most `depth` deep. -/
def Value.isReadable : Nat → Value → Bool
  | _, .unreadable => false
  | 0, .list _ => false
  | 0, .table _ => false
  | depth + 1, .list items => items.all (isReadable depth)
  | depth + 1, .table entries => entries.all fun (_, v) => v.isReadable depth
  | _, _ => true

end Registrar.Document
