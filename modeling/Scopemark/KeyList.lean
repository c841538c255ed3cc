namespace Scopemark.KeyList

variable {α : Type}

def insert (key : String) (value : α) : List (String × α) → List (String × α)
  | [] => [(key, value)]
  | (k, v) :: rest =>
    if key < k then (key, value) :: (k, v) :: rest
    else if key = k then (key, value) :: rest
    else (k, v) :: insert key value rest

def ofList (entries : List (String × α)) : List (String × α) :=
  entries.foldl (fun table (key, value) => insert key value table) []

def get? (key : String) (table : List (String × α)) : Option α := table.lookup key

end Scopemark.KeyList
