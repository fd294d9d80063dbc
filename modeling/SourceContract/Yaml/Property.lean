import SourceContract.Yaml.Cursor
import SourceContract.Yaml.Token
import SourceContract.Text.CharSet
import SourceContract.Text.Utf8

/-!
# Anchors, aliases, tags and directives

An anchor gives a node a name and an alias stands for the node of that name.  A tag
is written in full between angle brackets, or with a handle that a directive
declares.
-/

namespace SourceContract.Yaml.Reader

open Text

/-! ## Anchors and aliases -/

def anchorName (activity : Activity) : Reader String := do
  let began ← mark
  skip
  let name ← takeWhile isNameChar
  let next ← peek
  if name.isEmpty || !(endsWord next || next.any ("?:,]\x7d%@\x60".toList.contains ·)) then
    fail .nameInvalid activity began
  return String.ofList name

/-! ## Tags -/

def isUriChar (c : Char) : Bool := isNameChar c || ";/?:@&=+$.%!~*'()".toList.contains c

def octetCount (lead : Nat) : Nat :=
  if lead < 0x80 then 1
  else if lead / 0x20 = 0x6 then 2
  else if lead / 0x10 = 0xE then 3
  else if lead / 0x8 = 0x1E then 4
  else 0

def octet? : Reader (Option Nat) := do
  match (← get).rest with
  | '%' :: a :: b :: _ =>
      return (CharSet.hexValue? a).bind fun x => (CharSet.hexValue? b).map fun y => 16 * x + y
  | _ => return none

def trailingOctets (activity : Activity) (began : Mark) : Nat → Reader (List UInt8)
  | 0 => return []
  | count + 1 => do
      match ← octet? with
      | none => fail .octetMissing activity began
      | some n =>
          if n / 0x40 != 0x2 then fail .octetTrailing activity began
          skip; skip; skip
          return UInt8.ofNat n :: (← trailingOctets activity began count)

def uriEscape (activity : Activity) (began : Mark) : Reader (List Char) := do
  match ← octet? with
  | none => fail .octetMissing activity began
  | some n =>
      let count := octetCount n
      if count = 0 then fail .octetLeading activity began
      skip; skip; skip
      let more ← trailingOctets activity began (count - 1)
      return Utf8.decodeBytes (UInt8.ofNat n :: more)

/-- Characters of a tag.  Where the end of the tag is marked, it may hold `,`, `[` and `]` too. -/
def uriChars (marked : Bool) (activity : Activity) (began : Mark) : Nat → Reader (List Char)
  | 0 => return []
  | fuel + 1 => do
      match ← peek with
      | none => return []
      | some c =>
          if c == '%' then
            let cs ← uriEscape activity began
            return cs ++ (← uriChars marked activity began fuel)
          else if isUriChar c || (marked && (c == ',' || c == '[' || c == ']')) then
            skip
            return c :: (← uriChars marked activity began fuel)
          else return []

def uri (marked : Bool) (activity : Activity) (began : Mark) : Reader String := do
  let cs ← uriChars marked activity began (← steps)
  if cs.isEmpty then fail .uriMissing activity began
  return String.ofList cs

def handle (activity : Activity) (began : Mark) : Reader (List Char × Bool) := do
  if (← peek) != some '!' then fail .handleUnopened activity began
  skip
  let name ← takeWhile isNameChar
  if (← peek) == some '!' then
    skip
    return (name, true)
  else return (name, false)

def handleText (name : List Char) : String := "!" ++ String.ofList name ++ "!"

def tagParts (began : Mark) : Reader (String × String) := do
  if (← peekAt 1) == some '<' then
    skip; skip
    let suffix ← uri true .tagUri began
    if (← peek) != some '>' then fail .tagUnclosed .tag began
    skip
    return ("", suffix)
  else
    let (name, closed) ← handle .tag began
    if closed then return (handleText name, ← uri false .tagUri began)
    let suffix := name ++ (← uriChars false .tagUri began (← steps))
    return if suffix.isEmpty then ("", "!") else ("!", String.ofList suffix)

def tag (flow : Bool) : Reader Token := do
  let began ← mark
  let (handle, suffix) ← tagParts began
  let next ← peek
  if !endsWord next && !(flow && next == some ',') then fail .blankOrBreakMissing .tag began
  return .tag handle suffix

/-! ## Directives -/

def maxVersionDigits : Nat := 9

def versionNumber (began : Mark) : Reader Nat := do
  let digits := (← get).rest.takeWhile Char.isDigit
  if maxVersionDigits < digits.length then
    for _ in List.range maxVersionDigits do skip
    fail .versionTooLong .versionDirective began
  if digits.isEmpty then fail .versionMissing .versionDirective began
  skipWhile Char.isDigit
  return digits.foldl (fun n c => 10 * n + (c.toNat - '0'.toNat)) 0

def versionDirective (began : Mark) : Reader Token := do
  skipWhile isBlank
  let major ← versionNumber began
  if (← peek) != some '.' then fail .versionDotMissing .versionDirective began
  skip
  return .versionDirective major (← versionNumber began)

def tagDirective (began : Mark) : Reader Token := do
  skipWhile isBlank
  let (name, closed) ← handle .tagDirectiveStart began
  if !closed && !name.isEmpty then fail .handleUnopened .tagDirectiveHandle began
  if !(← peek).any isBlank then fail .blankMissing .tagDirective began
  skipWhile isBlank
  let expansion ← uri true .tagDirectiveUri began
  if !endsWord (← peek) then fail .blankOrBreakMissing .tagDirective began
  return .tagDirective (if closed then handleText name else "!") expansion

def directive : Reader Token := do
  let began ← mark
  skip
  let name ← takeWhile isNameChar
  if name.isEmpty then fail .directiveNameMissing .directive began
  if !endsWord (← peek) then fail .directiveNameInvalid .directive began
  let token ← match String.ofList name with
    | "YAML" => versionDirective began
    | "TAG" => tagDirective began
    | _ => fail .directiveUnknown .directive began
  skipWhile isBlank
  skipComment
  if !endsLine (← peek) then fail .lineEndMissing .directive began
  let _ ← takeBreak
  return token

end SourceContract.Yaml.Reader
