import Mathlib.Data.List.Basic

/-!
# Text and JSON values

The JSON values that the store keeps in its columns and the checks on texts that
several admission functions share.  An object is the list of its fields in key
order, which is the order the serializer writes them in; floating point numbers are
kept as their text, since nothing computes with them.
-/

namespace XGovernor.Domain

/-- `serde_json::Value`. -/
inductive Json where
  | null
  | bool (value : Bool)
  | number (value : Int)
  | float (text : String)
  | string (text : String)
  | array (items : List Json)
  | object (fields : List (String × Json))
deriving Repr

namespace Json

instance : Inhabited Json := ⟨null⟩

mutual

/-- Equality of JSON values is decided by recursion over both trees. -/
def decEq (a b : Json) : Decidable (a = b) := by
  cases a <;> cases b
  case null.null => exact isTrue rfl
  case array.array a b => exact @decidable_of_iff _ (a = b) (by simp) (decEqItems a b)
  case object.object a b => exact @decidable_of_iff _ (a = b) (by simp) (decEqFields a b)
  case bool.bool a b | number.number a b | float.float a b | string.string a b =>
    exact decidable_of_iff (a = b) (by simp)
  -- values of different kinds
  all_goals exact isFalse nofun

def decEqItems : (a b : List Json) → Decidable (a = b)
  | [], [] => isTrue rfl
  | [], _ :: _ => isFalse (by simp)
  | _ :: _, [] => isFalse (by simp)
  | x :: xs, y :: ys =>
    match decEq x y, decEqItems xs ys with
    | isTrue h, isTrue h' => isTrue (by rw [h, h'])
    | isFalse h, _ => isFalse fun heq => h (List.cons.inj heq).1
    | _, isFalse h => isFalse fun heq => h (List.cons.inj heq).2

def decEqFields : (a b : List (String × Json)) → Decidable (a = b)
  | [], [] => isTrue rfl
  | [], _ :: _ => isFalse (by simp)
  | _ :: _, [] => isFalse (by simp)
  | (k, x) :: xs, (l, y) :: ys =>
    match decEq x y, decEqFields xs ys with
    | isTrue h, isTrue h' =>
      if hk : k = l then isTrue (by rw [h, h', hk])
      else isFalse fun heq => hk (Prod.ext_iff.1 (List.cons.inj heq).1).1
    | isFalse h, _ => isFalse fun heq => h (Prod.ext_iff.1 (List.cons.inj heq).1).2
    | _, isFalse h => isFalse fun heq => h (List.cons.inj heq).2

end

instance : DecidableEq Json := decEq

/-- `value.get(key)`: the field of an object, if there is one. -/
def get? (value : Json) (key : String) : Option Json :=
  match value with
  | object fields => (fields.find? fun field => field.1 = key).map Prod.snd
  | _ => none

/-- `value[key]`: a missing field reads as null. -/
def field (value : Json) (key : String) : Json :=
  (value.get? key).getD null

/-- `value.as_str()`. -/
def asStr? : Json → Option String
  | string text => some text
  | _ => none

/-- `value.as_u64()`. -/
def asNat? : Json → Option Nat
  | number value => if 0 ≤ value then some value.toNat else none
  | _ => none

end Json

/-- `char::is_whitespace` of the source language: the Unicode white space characters. -/
def isWhitespace (c : Char) : Bool :=
  let n := c.toNat
  (9 ≤ n && n ≤ 13) || n = 32 || n = 0x85 || n = 0xA0 || n = 0x1680 ||
    (0x2000 ≤ n && n ≤ 0x200A) || n = 0x2028 || n = 0x2029 || n = 0x202F || n = 0x205F || n = 0x3000

/-- `value.trim().is_empty()`. -/
def isBlank (value : String) : Bool :=
  value.toList.all isWhitespace

/-- `str.isspace` of a character in Python, and the class `\s` of its expressions. -/
def isSpace (c : Char) : Bool :=
  isWhitespace c || ('\x1c' ≤ c && c ≤ '\x1f')

/-- A text that identifies something: not blank, at most 4096 bytes. -/
def nonempty (value : String) : Bool :=
  !isBlank value && decide (value.utf8ByteSize ≤ 4096)

/-- `u8::is_ascii_hexdigit`. -/
def isHexDigit (c : Char) : Bool :=
  c.isDigit || ('a' ≤ c && c ≤ 'f') || ('A' ≤ c && c ≤ 'F')

/-- The SHA-256 digest of a request in hexadecimal. -/
def isDigest (value : String) : Bool :=
  decide (value.utf8ByteSize = 64) && value.toList.all isHexDigit

/-- `str::to_ascii_lowercase`. -/
def asciiLowercase (value : String) : String :=
  String.ofList (value.toList.map Char.toLower)

/-- `value.split('/')`. -/
def splitSlash (value : String) : List String :=
  (value.toList.splitOn '/').map String.ofList

/-- The field names that carry credentials. -/
def credentialKeys : List String :=
  ["api_key", "apikey", "password", "authorization", "access_token", "secret_key"]

mutual

/-- No object inside the value has a field whose name is a credential's. -/
def noCredentials : Json → Bool
  | .object fields => noCredentialFields fields
  | .array items => noCredentialItems items
  | _ => true

def noCredentialItems : List Json → Bool
  | [] => true
  | item :: items => noCredentials item && noCredentialItems items

def noCredentialFields : List (String × Json) → Bool
  | [] => true
  | (key, value) :: fields =>
    !credentialKeys.contains (asciiLowercase key) && noCredentials value &&
      noCredentialFields fields

end

end XGovernor.Domain
