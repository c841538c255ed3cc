import Scopemark.Unicode.Latest

namespace Scopemark.Text

def quoteChar (c : Char) : List Char :=
  match c with
  | '\t' => ['\\', 't']
  | '\r' => ['\\', 'r']
  | '\n' => ['\\', 'n']
  | '\x00' => ['\\', '0']
  | '\x22' => ['\\', '\x22']
  | '\\' => ['\\', '\\']
  | c =>
    if Unicode.Latest.visible.contains c then [c]
    else ['\\', 'u', '\x7b'] ++ hexDigits c.toNat ++ ['\x7d']

def quoted (s : String) : String :=
  .ofList ('\x22' :: s.toList.flatMap quoteChar ++ ['\x22'])

end Scopemark.Text
