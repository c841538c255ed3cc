namespace Scopemark.Text

section Pieces

variable {α : Type} [DecidableEq α]

def cutFrom (sep : α) (piece : List α) : List α → List (List α)
  | [] => [piece.reverse]
  | c :: rest => if c = sep then piece.reverse :: cutFrom sep [] rest else cutFrom sep (c :: piece) rest

def cut (sep : α) (cs : List α) : List (List α) := cutFrom sep [] cs

def joinWith (sep : α) : List (List α) → List α
  | [] => []
  | [cs] => cs
  | cs :: rest => cs ++ sep :: joinWith sep rest

end Pieces

def linesFrom (line : List Char) : List Char → List (List Char)
  | [] => if line.isEmpty then [] else [line.reverse]
  | c :: rest =>
    if c = '\n' then
      (match line with
        | '\r' :: line => line.reverse
        | line => line.reverse) :: linesFrom [] rest
    else linesFrom (c :: line) rest

def lines (cs : List Char) : List (List Char) := linesFrom [] cs

end Scopemark.Text
