import Scopemark.Grammar.Tokenizer

namespace Scopemark

/-- What a check asks for, in a monad that holds what the oracle keeps. -/
structure Oracle (m : Type → Type) where
  scopesAt : (text : String) → (line column : Nat) → m ScopeSet
  /-- No more questions about the text follow. -/
  release : (text : String) → m Unit

def Oracle.ofFunction (f : String → Nat → Nat → ScopeSet) : Oracle Id where
  scopesAt := f
  release _ := ()

/-- Tokens of texts under keys. Two texts may have one key, of which the later one is kept. -/
structure Cache where
  entries : List (UInt64 × String × TokenizedText)

namespace Cache

def empty : Cache := ⟨[]⟩

def size (c : Cache) : Nat := c.entries.length

def find? (c : Cache) (key : UInt64) (text : String) : Option TokenizedText :=
  match c.entries.lookup key with
  | some (kept, tokens) => if kept = text then some tokens else none
  | none => none

def remove (c : Cache) (key : UInt64) : Cache := ⟨c.entries.filter fun e => e.1 != key⟩

def insert (c : Cache) (key : UInt64) (text : String) (tokens : TokenizedText) : Cache :=
  ⟨(key, text, tokens) :: (c.remove key).entries⟩

def evict (c : Cache) (key : UInt64) (text : String) : Cache :=
  if (c.find? key text).isSome then c.remove key else c

end Cache

namespace Grammar

variable (g : Grammar) (key : String → UInt64)

def lookUp (text : String) : StateM Cache (Option TokenizedText) :=
  return (← get).find? (key text) text

def keep (text : String) (tokens : TokenizedText) : StateM Cache Unit :=
  modify fun c => c.insert (key text) text tokens

/-- The tokens of a text, which is tokenized when it is asked for and not kept. Others may use the
cache in the meantime. -/
def document (text : String) : StateM Cache TokenizedText := do
  match ← lookUp key text with
  | some tokens => return tokens
  | none =>
    let tokens := g.tokenize text
    keep key text tokens
    return tokens

def evict (text : String) : StateM Cache Unit := modify fun c => c.evict (key text) text

def clearCache : StateM Cache Unit := set Cache.empty

def oracle : Oracle (StateM Cache) where
  scopesAt text line column := do return (← g.document key text).scopesAt line column
  release text := evict key text

end Grammar

end Scopemark
