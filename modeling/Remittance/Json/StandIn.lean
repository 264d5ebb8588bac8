import Remittance.Json.Reader

/-! # Stand-ins for the surrogates of a JSON text

A JSON text may hold unpaired surrogates itself and name further ones in escapes. `standInsFor`
gives all of them stand-ins that the text names neither as characters nor in escapes. Escapes are
looked for at every place, so none that `read` finds is missed; one that is found where `read` finds
none costs a character of the pool and nothing else. -/

namespace Remittance.Json

open Text (StandIns)

/-- The character of the escape with a code in front of a text. -/
def escapedCharacter? : List Char → Option Char
  | '\\' :: 'u' :: cs => (scanCode .none cs).toOption.map (·.1)
  | _ => none

/-- The surrogate of the escape in front of a text, whether it is paired or not. -/
def escapedSurrogate? : List Char → Option Nat
  | '\\' :: 'u' :: a :: b :: c :: d :: _ => (codeUnit? a b c d).filter Text.isSurrogate
  | _ => none

/-- The characters that stand in a text or are named in its escapes. -/
def namedCharacters : List Char → List Char
  | [] => []
  | c :: cs => (escapedCharacter? (c :: cs)).toList ++ c :: namedCharacters cs

/-- The surrogates that are named in the escapes of a text. -/
def namedSurrogates : List Char → List Nat
  | [] => []
  | c :: cs => (escapedSurrogate? (c :: cs)).toList ++ namedSurrogates cs

/-- Stand-ins for the surrogates in a JSON text with the given code points. -/
def standInsFor (points : List Nat) : StandIns :=
  let cs := (StandIns.none.text points).toList
  .apartFrom (points.filter Text.isSurrogate ++ namedSurrogates cs) (namedCharacters cs)

end Remittance.Json
