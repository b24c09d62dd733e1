import CertIssuer.Number.Shortest

/-!
Histograms: how many of the observed values are at most each of a few bounds, how many there are in
all, and their sum.
-/

namespace CertIssuer

open Number (Binary binary64)

/-- A histogram; each bound comes with the number of observed values that are at most it. -/
structure Histogram where
  buckets : List (Binary × Nat)
  sum : Binary
  count : Nat
  deriving DecidableEq

namespace Histogram

/-- A histogram without values, whose bounds are given in hundredths. -/
def ofHundredths (bounds : List Nat) : Histogram :=
  ⟨bounds.map fun (n : Nat) => (binary64.round false (mkRat n 100), 0), .zero, 0⟩

/-- The histogram with one more value. -/
def observe (h : Histogram) (x : Binary) : Histogram where
  buckets := h.buckets.map fun b => (b.1, if x.le b.1 then b.2 + 1 else b.2)
  sum := h.sum.add binary64 x
  count := h.count + 1

/-- The numbers of values by the text of the bound; the last bound is infinite. -/
def cumulative (h : Histogram) : List (String × Nat) :=
  (h.buckets.map fun b => (b.1.positional binary64, b.2)) ++ [("+Inf", h.count)]

end Histogram
end CertIssuer
