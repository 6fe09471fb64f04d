import Vigil.Interval.Basic
import Vigil.Url.Reading

/-!
# Addresses of the render service

A graph and the samples behind it have the same address up to its format: the
target and the two ends of the window, both counted back from now.
-/

namespace Vigil.Graphite

/-- The text without slashes at its end. -/
def trimSlashes (text : List Char) : List Char := (text.reverse.dropWhile (· = '/')).reverse

/-- An offset back from now. -/
def back (i : Interval) : List Char := '-' :: i.wire.toList

/-- The fields of a request, where raw samples need one more than a graph. -/
def renderPairs (target : String) (window lag : Interval) (raw : Bool) : List (List Char × List Char) :=
  [("target".toList, target.toList), ("from".toList, back (window + lag)), ("until".toList, back lag)]
    ++ if raw then [("format".toList, "raw".toList)] else []

/-- The address of a target in a window that ends the lag before now, for a reader of addresses, if
the base is an address to it. -/
def renderUrlBy? (reader : List Char → Option Url) (base target : String) (window lag : Interval)
    (raw : Bool) : Option String := do
  let url ← reader (trimSlashes base.toList ++ "/render/".toList)
  some (String.ofList (url.withPairs (renderPairs target window lag raw)).text)

/-- The address of a target in a window that ends the lag before now, if the base is an address. -/
def renderUrl? (base target : String) (window lag : Interval) (raw : Bool) : Option String :=
  renderUrlBy? Url.read base target window lag raw

end Vigil.Graphite
