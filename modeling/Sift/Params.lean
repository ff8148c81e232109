import Sift.Filter.Parser
import Sift.QueryString

/-!
The parameters of a request for a collection. Only the filter is interpreted here; the others are
kept as they were written.
-/

namespace Sift

structure Params where
  filter : Option String := none
  orderBy : Option String := none
  fields : Option String := none
  limit : Option String := none
  offset : Option String := none
  pageToken : Option String := none
deriving DecidableEq, Repr

inductive Params.Key where
  | filter | orderBy | fields | limit | offset | pageToken
deriving DecidableEq, Repr

namespace Params

namespace Key

def all : List Key := [.filter, .orderBy, .fields, .limit, .offset, .pageToken]

def name : Key → String
  | .filter => "_filter"
  | .orderBy => "_order_by"
  | .fields => "_fields"
  | .limit => "_limit"
  | .offset => "_offset"
  | .pageToken => "_page_token"

def ofName? (name : String) : Option Key := all.find? (fun key => key.name == name)

end Key

def get (params : Params) : Key → Option String
  | .filter => params.filter
  | .orderBy => params.orderBy
  | .fields => params.fields
  | .limit => params.limit
  | .offset => params.offset
  | .pageToken => params.pageToken

def set (params : Params) (value : String) : Key → Params
  | .filter => { params with filter := some value }
  | .orderBy => { params with orderBy := some value }
  | .fields => { params with fields := some value }
  | .limit => { params with limit := some value }
  | .offset => { params with offset := some value }
  | .pageToken => { params with pageToken := some value }

structure RepeatedKey where
  key : Key
deriving DecidableEq, Repr

def RepeatedKey.message (e : RepeatedKey) : String :=
  "invalid query string: duplicate field `" ++ e.key.name ++ "`"

/-- Enters a pair. Unknown keys are passed over, however often they come. -/
def enter (params : Params) (pair : String × String) : Except RepeatedKey Params :=
  match Key.ofName? pair.1 with
  | none => .ok params
  | some key => if (params.get key).isSome then .error ⟨key⟩ else .ok (params.set pair.2 key)

/-- Reads the parameters from a query string, with or without the question mark in front. -/
def ofQuery (query : String) : Except RepeatedKey Params :=
  let text :=
    match query.toList with
    | '?' :: rest => String.ofList rest
    | _ => query
  (QueryString.pairs text).foldlM enter {}

/-- The filter that the parameters ask for. Without one everything is kept. -/
def parseFilter (params : Params) (limits : Limits) : Except FilterError Filter :=
  match params.filter with
  | some text => Filter.parse text limits
  | none => .ok .matchAll

end Params

end Sift
