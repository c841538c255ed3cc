import Scopemark.Unicode.Age
import Scopemark.Unicode.Segment

namespace Scopemark.Unicode

/-- Names that belong both to a category and to a property that is no set, of which the category is
meant. -/
def categoryFirst (name : List Char) : Bool :=
  name == ['c', 'f'] || name == ['s', 'c'] || name == ['l', 'c']

def ofName? (name : List Char) : Option CharSet :=
  let loose := looseName name
  let property := if categoryFirst loose then none else property? loose
  property <|> category? loose <|> script? loose

def ofNameAndValue? (name value : List Char) : Option CharSet :=
  let loose := looseName name
  let value := looseName value
  if hasName ["General_Category", "gc"] loose then category? value
  else if hasName ["Script", "sc"] loose then script? value
  else if hasName ["Script_Extensions", "scx"] loose then scriptExtension? value
  else if hasName ["Age"] loose then age? value
  else if hasName ["Grapheme_Cluster_Break", "GCB"] loose then classOf? graphemeBreaks value
  else if hasName ["Word_Break", "WB"] loose then classOf? wordBreaks value
  else if hasName ["Sentence_Break", "SB"] loose then classOf? sentenceBreaks value
  else none

inductive Relation
  | holds
  | fails
deriving DecidableEq, Repr

def cutQuery (cs : List Char) : Option (List Char × Relation × List Char) :=
  let at? (sep : List Char) (relation : Relation) : Option (List Char × Relation × List Char) :=
    ((List.range cs.length).find? fun i => sep.isPrefixOf (cs.drop i)).map fun i =>
      (cs.take i, relation, cs.drop (i + sep.length))
  at? ['!', '='] .fails <|> at? [':'] .holds <|> at? ['='] .holds

def query? (cs : List Char) : Option (CharSet × Relation) :=
  match cutQuery cs with
  | some (name, relation, value) => (ofNameAndValue? name value).map fun s => (s, relation)
  | none => (ofName? cs).map fun s => (s, .holds)

end Scopemark.Unicode
