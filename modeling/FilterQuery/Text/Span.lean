namespace FilterQuery.Text

structure Span where
  first : Nat
  last : Nat
  deriving DecidableEq, Repr

namespace Span

def contains (s : Span) (c : Char) : Bool :=
  s.first ≤ c.toNat && c.toNat ≤ s.last

def covers (spans : List Span) (c : Char) : Bool :=
  spans.any (fun s => s.contains c)

end Span

end FilterQuery.Text
