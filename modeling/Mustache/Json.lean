import Mustache.Json.Number
import Mustache.Text.Blank

/-!
# JSON

Data files hold one JSON value. The text is first cut into tokens; the tokens then drive a stack of
the lists and maps that are still open, so nesting needs no recursion and has a plain limit.
-/

namespace Mustache.Json

set_option autoImplicit false

/-- Why a text is not JSON. -/
inductive JsonError where
  | unexpectedCharacter
  | unexpectedToken
  | unexpectedEnd
  | invalidText
  | invalidNumber
  | tooDeep
deriving Repr, DecidableEq, Inhabited

def JsonError.message : JsonError → String
  | unexpectedCharacter => "unexpected character"
  | unexpectedToken => "unexpected token"
  | unexpectedEnd => "unexpected end"
  | invalidText => "invalid string"
  | invalidNumber => "invalid number"
  | tooDeep => "nested too deeply"

/-- A token of JSON. -/
inductive Token where
  | listOpen
  | listClose
  | mapOpen
  | mapClose
  | comma
  | colon
  | text (content : String)
  | value (value : Value)
deriving Inhabited

def isSpace (character : Char) : Bool :=
  character == ' ' || character == '\n' || character == '\t' || character == '\r'

def hexDigit? (character : Char) : Option Nat :=
  if character.isDigit then some (character.toNat - 48)
  else if 'a' ≤ character ∧ character ≤ 'f' then some (character.toNat - 87)
  else if 'A' ≤ character ∧ character ≤ 'F' then some (character.toNat - 55)
  else none

/-- The number that four hexadecimal digits stand for. -/
def hexUnit? (first second third fourth : Char) : Option Nat :=
  match hexDigit? first, hexDigit? second, hexDigit? third, hexDigit? fourth with
  | some first, some second, some third, some fourth =>
    some (((first * 16 + second) * 16 + third) * 16 + fourth)
  | _, _, _, _ => none

/-- The character that an escape of one letter stands for. -/
def escape? : Char → Option Char
  | '\x22' => some '\x22'
  | '\\' => some '\\'
  | '/' => some '/'
  | 'b' => some '\x08'
  | 'f' => some '\x0c'
  | 'n' => some '\n'
  | 'r' => some '\r'
  | 't' => some '\t'
  | _ => none

/-- Reads a string from after its opening quote; `read` holds its characters so far in reverse. A
surrogate must be the first half of a pair. The rest after the closing quote is returned too. -/
def readText? (read : List Char) : List Char → Option (String × List Char)
  | [] => none
  | '\x22' :: rest => some (String.ofList read.reverse, rest)
  | '\\' :: 'u' :: first :: second :: third :: fourth :: rest =>
    match hexUnit? first second third fourth with
    | none => none
    | some unit =>
      if unit < 0xd800 ∨ 0xdfff < unit then readText? (Char.ofNat unit :: read) rest
      else if 0xdbff < unit then none
      else
        match rest with
        | '\\' :: 'u' :: first :: second :: third :: fourth :: rest =>
          match hexUnit? first second third fourth with
          | none => none
          | some low =>
            if low < 0xdc00 ∨ 0xdfff < low then none
            else
              readText? (Char.ofNat (0x10000 + (unit - 0xd800) * 0x400 + (low - 0xdc00)) :: read) rest
        | _ => none
  | '\\' :: letter :: rest =>
    match escape? letter with
    | none => none
    | some character => readText? (character :: read) rest
  | character :: rest =>
    if character = '\\' ∨ character.toNat < 0x20 then none else readText? (character :: read) rest

theorem readText?_shorter (read text : List Char) (content : String) (rest : List Char)
    (found : readText? read text = some (content, rest)) : rest.length < text.length := by
  fun_induction readText? read text <;> simp_all <;> omega

/-- The characters that a number is written with. -/
def isNumberChar (character : Char) : Bool :=
  character.isDigit || character == '-' || character == '+' || character == '.' ||
    character == 'e' || character == 'E'

def word? (word : List Char) : Option Value :=
  if word = ['n', 'u', 'l', 'l'] then some .null
  else if word = ['t', 'r', 'u', 'e'] then some (.bool true)
  else if word = ['f', 'a', 'l', 's', 'e'] then some (.bool false)
  else none

/-- The token that one character stands for. -/
def mark? : Char → Option Token
  | '[' => some .listOpen
  | ']' => some .listClose
  | '\x7b' => some .mapOpen
  | '\x7d' => some .mapClose
  | ',' => some .comma
  | ':' => some .colon
  | _ => none

/-- Reads a token that begins with `first`. Words and numbers reach as far as their characters
do. -/
def token (first : Char) (rest : List Char) : Except JsonError (Token × List Char) :=
  match mark? first with
  | some mark => .ok (mark, rest)
  | none =>
    if first = '\x22' then
      match readText? [] rest with
      | none => .error .invalidText
      | some (content, rest) => .ok (.text content, rest)
    else if first.isAlpha then
      match word? (first :: rest.takeWhile Char.isAlpha) with
      | none => .error .unexpectedCharacter
      | some value => .ok (.value value, rest.dropWhile Char.isAlpha)
    else if first.isDigit || first == '-' then
      match (readNumber? (first :: rest.takeWhile isNumberChar)).bind NumberText.value? with
      | none => .error .invalidNumber
      | some value => .ok (.value value, rest.dropWhile isNumberChar)
    else .error .unexpectedCharacter

theorem length_dropWhile_le (accept : Char → Bool) (text : List Char) :
    (text.dropWhile accept).length ≤ text.length :=
  (List.dropWhile_suffix accept).length_le

theorem token_shorter (first : Char) (rest next : List Char) (read : Token)
    (found : token first rest = .ok (read, next)) : next.length < (first :: rest).length := by
  unfold token at found
  have words := length_dropWhile_le Char.isAlpha rest
  have numbers := length_dropWhile_le isNumberChar rest
  rw [List.length_cons]
  split at found
  · cases found
    omega
  · split at found
    · split at found
      · cases found
      · rename_i content after scanned
        have shorter := readText?_shorter _ _ _ _ scanned
        cases found
        omega
    · split at found
      · split at found
        · cases found
        · cases found
          omega
      · split at found
        · split at found
          · cases found
          · cases found
            omega
        · cases found

/-- Cuts a text into tokens; `found` holds those already read, newest first. -/
def tokens (found : List Token) (text : List Char) : Except JsonError (List Token) :=
  match text with
  | [] => .ok found.reverse
  | first :: rest =>
    if isSpace first then tokens found rest
    else
      match _read : token first rest with
      | .error error => .error error
      | .ok (token, next) => tokens (token :: found) next
termination_by text.length
decreasing_by
  · simp
  · exact token_shorter first rest next token _read

/-- A list or a map that is still open, its items newest first. -/
inductive Opened where
  | list (items : List Value)
  /-- A map, and the name whose value comes next. -/
  | map (entries : List (String × Value)) (name : String)
deriving Inhabited

/-- What may come next. -/
inductive Expected where
  /-- A value. -/
  | value
  /-- A value, or the end of the list just opened. -/
  | firstItem
  /-- A name, or the end of the map just opened. -/
  | firstName
  /-- The next name of a map. -/
  | name
  /-- The colon after a name. -/
  | colon
  /-- A comma, or the end of the innermost list or map. -/
  | separator
  /-- Nothing: the value is complete. -/
  | finished (value : Value)
deriving Inhabited

/-- What is open around the next token, innermost first, and what may come next. -/
structure Reader where
  opened : List Opened
  expected : Expected
deriving Inhabited

namespace Reader

/-- At most this many lists and maps may be inside one another. -/
def depthLimit : Nat := 127

def complete (opened : List Opened) (value : Value) : Reader :=
  match opened with
  | [] => ⟨[], .finished value⟩
  | .list items :: outer => ⟨.list (value :: items) :: outer, .separator⟩
  | .map entries name :: outer => ⟨.map ((name, value) :: entries) name :: outer, .separator⟩

/-- Opens a list or a map. The limit counts what is open with it. -/
def enter (depth : Nat) (next : Reader) : Except JsonError Reader :=
  if depth < depthLimit then .ok next else .error .tooDeep

def beginValue (opened : List Opened) : Token → Except JsonError Reader
  | .value value => .ok (complete opened value)
  | .text content => .ok (complete opened (.string content))
  | .listOpen => enter opened.length ⟨.list [] :: opened, .firstItem⟩
  | .mapOpen => enter opened.length ⟨.map [] "" :: opened, .firstName⟩
  | _ => .error .unexpectedToken

def close (opened : List Opened) (token : Token) : Except JsonError Reader :=
  match opened, token with
  | .list items :: outer, .listClose => .ok (complete outer (.list items.reverse))
  | .map entries _ :: outer, .mapClose => .ok (complete outer (Value.ofPairs entries.reverse))
  | _, _ => .error .unexpectedToken

/-- The name of an entry of the innermost map. -/
def beginEntry (opened : List Opened) (token : Token) : Except JsonError Reader :=
  match opened, token with
  | .map entries _ :: outer, .text name => .ok ⟨.map entries name :: outer, .colon⟩
  | _, _ => .error .unexpectedToken

def step (reader : Reader) (token : Token) : Except JsonError Reader :=
  match reader.expected, token with
  | .value, token => beginValue reader.opened token
  | .firstItem, .listClose => close reader.opened .listClose
  | .firstItem, token => beginValue reader.opened token
  | .firstName, .mapClose => close reader.opened .mapClose
  | .firstName, token => beginEntry reader.opened token
  | .name, token => beginEntry reader.opened token
  | .colon, .colon => .ok ⟨reader.opened, .value⟩
  | .separator, .comma =>
    match reader.opened with
    | .list _ :: _ => .ok ⟨reader.opened, .value⟩
    | .map _ _ :: _ => .ok ⟨reader.opened, .name⟩
    | [] => .error .unexpectedToken
  | .separator, token => close reader.opened token
  | _, _ => .error .unexpectedToken

def run (reader : Reader) : List Token → Except JsonError Value
  | [] =>
    match reader.expected with
    | .finished value => .ok value
    | _ => .error .unexpectedEnd
  | token :: rest =>
    match reader.step token with
    | .error error => .error error
    | .ok next => next.run rest

end Reader

/-- Reads a JSON text. The last value for a name of a map counts. -/
def parse (text : String) : Except JsonError Value :=
  match tokens [] text.toList with
  | .error error => .error error
  | .ok tokens => (Reader.mk [] .value).run tokens

end Mustache.Json
