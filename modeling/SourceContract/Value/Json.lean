import SourceContract.Value.Basic

/-!
# Values as JSON text

The layout has one entry or item a line, indented by two blanks a level; an empty
sequence and an empty map stay on their line.
-/

namespace SourceContract.Value

/-! ## Strings -/

def hexDigit (n : Nat) : Char := (Nat.digitChar (n % 16))

def jsonEscape (c : Char) : List Char :=
  if c = '"' then ['\\', '"']
  else if c = '\\' then ['\\', '\\']
  else if c = '\x08' then ['\\', 'b']
  else if c = '\x0c' then ['\\', 'f']
  else if c = '\n' then ['\\', 'n']
  else if c = '\r' then ['\\', 'r']
  else if c = '\t' then ['\\', 't']
  else if c.toNat < 0x20 then ['\\', 'u', '0', '0', hexDigit (c.toNat / 16), hexDigit c.toNat]
  else [c]

def jsonString (s : String) : String :=
  "\"" ++ String.ofList (s.toList.flatMap jsonEscape) ++ "\""

def jsonNumber (x : Binary64) : String :=
  if x.isFinite then x.compact else "null"

def keyJson : Key → String
  | .name s => jsonString s
  | .position n => jsonString (toString n)
  | .other _ => jsonString ""

/-! ## Layout -/

def indent (level : Nat) : String := String.ofList (List.replicate (2 * level) ' ')

def block (opening closing : String) (level : Nat) (elements : List String) : String :=
  if elements.isEmpty then opening ++ closing
  else
    opening ++ "\n" ++ ",\n".intercalate (elements.map fun e => indent (level + 1) ++ e) ++ "\n"
      ++ indent level ++ closing

mutual

/-- The text of a value whose first line is already indented to `level`. -/
def pretty (level : Nat) : Value → String
  | .null => "null"
  | .bool b => if b then "true" else "false"
  | .int i => toString i
  | .float x => jsonNumber x
  | .str s => jsonString s
  | .seq items => block "[" "]" level (prettyItems (level + 1) items)
  | .map entries => block "\x7b" "\x7d" level (prettyEntries (level + 1) entries)

def prettyItems (level : Nat) : List Value → List String
  | [] => []
  | v :: rest => pretty level v :: prettyItems level rest

def prettyEntries (level : Nat) : List (Key × Value) → List String
  | [] => []
  | (k, v) :: rest => (keyJson k ++ ": " ++ pretty level v) :: prettyEntries level rest

end

def toJson (v : Value) : String := pretty 0 v

end SourceContract.Value
