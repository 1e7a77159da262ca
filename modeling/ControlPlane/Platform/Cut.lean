import ControlPlane.Envelope
import ControlPlane.Query

/-!
# Cutting a list into pages

What a list is asked for is read from pairs: the page, its size and a name. Pairs that cannot be read leave the usual values,
and both numbers are at least one. A page is cut from the whole list and names the pages before and after it by links.
-/

namespace ControlPlane.Platform

/-- What a list is asked for. -/
structure Cut where
  page : UInt32 := 1
  size : UInt32 := Query.defaultPerPage
  name : Option String := none
deriving DecidableEq, Repr

namespace Cut

/-- A number that is at least one, where a text does not tell another one. -/
def positive (usual : UInt32) (value : String) : UInt32 := max 1 ((Decimal.word32? value).getD usual)

/-- The name that a filter asks for. -/
def filteredName? (filter : String) : Option String :=
  match filter.toList with
  | 'n' :: 'a' :: 'm' :: 'e' :: ':' :: name => some (String.ofList name)
  | _ => none

/-- What is asked for after one more pair. -/
def note (c : Cut) (pair : String × String) : Cut :=
  if pair.1 = "page" then { c with page := positive 1 pair.2 }
  else if pair.1 = "results-per-page" then { c with size := positive Query.defaultPerPage pair.2 }
  else if pair.1 = "q" then { c with name := filteredName? pair.2 <|> c.name }
  else c

/-- What pairs ask for. The last pair of each kind counts. -/
def ofPairs (pairs : List (String × String)) : Cut := pairs.foldl note {}

/-- How many pages of a size a list of some length has. -/
def pageCount (length size : Nat) : Nat := (length + size - 1) / size

/-- The items of a page, where pages are counted from one. -/
def slice {α : Type} (items : List α) (page size : Nat) : List α := (items.drop ((page - 1) * size)).take size

/-- The link to a page. -/
def link (c : Cut) (path : String) (page : UInt32) : String :=
  path ++ "?order-direction=asc&page=" ++ toString page.toNat ++ "&results-per-page=" ++ toString c.size.toNat

/-- The page of a list at a path. -/
def envelope {α : Type} (c : Cut) (path : String) (items : List α) : Envelope α :=
  let pages : UInt32 := (pageCount items.length c.size.toNat).toUInt32
  { totalResults := some items.length.toUInt64
    totalPages := some pages
    prevUrl := if 1 < c.page then some (c.link path (c.page - 1)) else none
    nextUrl := if c.page < pages then some (c.link path (c.page + 1)) else none
    resources := slice items c.page.toNat c.size.toNat }

end Cut

end ControlPlane.Platform
