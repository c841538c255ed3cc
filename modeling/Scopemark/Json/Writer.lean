import Scopemark.Json.Basic

namespace Scopemark.Json

def hexPair (n : Nat) : List Char :=
  let digits := Text.hexDigits n
  List.replicate (2 - digits.length) '0' ++ digits

def escapeChar (c : Char) : List Char :=
  match c with
  | '\x22' => ['\\', '\x22']
  | '\\' => ['\\', '\\']
  | '\x08' => ['\\', 'b']
  | '\x0c' => ['\\', 'f']
  | '\n' => ['\\', 'n']
  | '\r' => ['\\', 'r']
  | '\t' => ['\\', 't']
  | c => if c.toNat < 0x20 then ['\\', 'u', '0', '0'] ++ hexPair c.toNat else [c]

/-- A string that is not one is written as the half of a surrogate pair. -/
def writeString (s : Option String) : List Char :=
  match s with
  | some s => '\x22' :: s.toList.flatMap escapeChar ++ ['\x22']
  | none => "\"\\ud800\"".toList

def separate (sep : List Char) : List (List Char) → List Char
  | [] => []
  | [cs] => cs
  | cs :: rest => cs ++ sep ++ separate sep rest

def newline (indent : Option Nat) : List Char :=
  match indent with
  | none => []
  | some n => '\n' :: List.replicate (2 * n) ' '

def colon (indent : Option Nat) : List Char := if indent.isSome then [':', ' '] else [':']

def enclose (opening closing : Char) (indent : Option Nat) (members : List (List Char)) : List Char :=
  if members.isEmpty then [opening, closing]
  else
    let inner := newline (indent.map (· + 1))
    opening :: inner ++ separate (',' :: inner) members ++ newline indent ++ [closing]

mutual

def write (indent : Option Nat) : Json → List Char
  | null => "null".toList
  | bool true => "true".toList
  | bool false => "false".toList
  | number digits => digits
  | string s => writeString s
  | array elements => enclose '[' ']' indent (writeElements (indent.map (· + 1)) elements)
  | object fields => enclose '\x7b' '\x7d' indent (writeFields (indent.map (· + 1)) fields)

def writeElements (indent : Option Nat) : List Json → List (List Char)
  | [] => []
  | value :: rest => write indent value :: writeElements indent rest

def writeFields (indent : Option Nat) : List (Option String × Json) → List (List Char)
  | [] => []
  | (key, value) :: rest =>
    (writeString key ++ colon indent ++ write indent value) :: writeFields indent rest

end

def pretty (value : Json) : String := .ofList (write (some 0) value)

end Scopemark.Json
