import PortMessaging.Json.StringLiteral

/-!
# Json.Value — JSON values and their compact text

A value keeps the members of an object in the order in which they were written, repetitions
included, because what a repetition means depends on what is read from the object.  Whole numbers
are kept as integers; every other number (with a fraction, an exponent, or a negative zero) is kept
as its text, since no setting, id or byte of this library is such a number.  A string literal that
denotes no text (see `StringLiteral`) is a value too: it may stand where nobody looks.
-/

namespace PortMessaging

inductive Json where
  | null
  | bool (value : Bool)
  | integer (value : Int)
  | decimal (text : String)
  | string (text : Option String)
  | array (items : List Json)
  | object (members : List (Option String × Json))
  deriving Inhabited

namespace Json

def integerText : Int → List Char
  | .ofNat n => Nat.toDigits 10 n
  | .negSucc n => '-' :: Nat.toDigits 10 (n + 1)

/-- The literal of a text; a string without a text has none of its own and is written empty. -/
def stringText (text : Option String) : List Char :=
  StringLiteral.write (text.getD "").toList

mutual

/-- The compact text of a value, without any blank. -/
def chars : Json → List Char
  | null => "null".toList
  | bool true => "true".toList
  | bool false => "false".toList
  | integer n => integerText n
  | decimal text => text.toList
  | string text => stringText text
  | array items => '[' :: itemChars items
  | object members => '\x7b' :: memberChars members

/-- The items of an array with the closing bracket. -/
def itemChars : List Json → List Char
  | [] => [']']
  | [item] => item.chars ++ [']']
  | item :: rest => item.chars ++ ',' :: itemChars rest

/-- The members of an object with the closing brace. -/
def memberChars : List (Option String × Json) → List Char
  | [] => ['\x7d']
  | [(key, value)] => stringText key ++ ':' :: (value.chars ++ ['\x7d'])
  | (key, value) :: rest => stringText key ++ ':' :: (value.chars ++ ',' :: memberChars rest)

end

@[simp] theorem chars_null : null.chars = "null".toList := rfl

@[simp] theorem chars_true : (bool true).chars = "true".toList := rfl

@[simp] theorem chars_false : (bool false).chars = "false".toList := rfl

@[simp] theorem chars_integer (n : Int) : (integer n).chars = integerText n := rfl

@[simp] theorem chars_string (text : Option String) : (string text).chars = stringText text := rfl

@[simp] theorem chars_array (items : List Json) : (array items).chars = '[' :: itemChars items := rfl

@[simp] theorem chars_object (members : List (Option String × Json)) :
    (object members).chars = '\x7b' :: memberChars members := rfl

@[simp] theorem itemChars_singleton (item : Json) : itemChars [item] = item.chars ++ [']'] := rfl

@[simp] theorem itemChars_cons_cons (item next : Json) (items : List Json) :
    itemChars (item :: next :: items) = item.chars ++ ',' :: itemChars (next :: items) := rfl

@[simp] theorem memberChars_singleton (member : Option String × Json) :
    memberChars [member] = stringText member.1 ++ ':' :: (member.2.chars ++ ['\x7d']) := rfl

@[simp] theorem memberChars_cons_cons (member next : Option String × Json)
    (members : List (Option String × Json)) :
    memberChars (member :: next :: members) =
      stringText member.1 ++ ':' :: (member.2.chars ++ ',' :: memberChars (next :: members)) := rfl

/-- The compact text of a value. -/
def compact (value : Json) : String := String.ofList value.chars

end Json
end PortMessaging
