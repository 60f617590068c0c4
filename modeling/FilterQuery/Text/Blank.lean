namespace FilterQuery.Text

def isBlank (c : Char) : Bool :=
  let n := c.toNat
  (0x9 ≤ n && n ≤ 0xD) || n == 0x20 || n == 0x85 || n == 0xA0 || n == 0x1680 ||
    (0x2000 ≤ n && n ≤ 0x200A) || n == 0x2028 || n == 0x2029 || n == 0x202F ||
    n == 0x205F || n == 0x3000

def dropBlanks (s : List Char) : List Char :=
  s.dropWhile isBlank

theorem length_dropBlanks_le (s : List Char) : (dropBlanks s).length ≤ s.length :=
  (List.dropWhile_sublist isBlank).length_le

theorem takeWhile_append_dropBlanks (s : List Char) :
    s.takeWhile isBlank ++ dropBlanks s = s :=
  List.takeWhile_append_dropWhile

def trim (s : List Char) : List Char :=
  (dropBlanks (dropBlanks s).reverse).reverse

end FilterQuery.Text
