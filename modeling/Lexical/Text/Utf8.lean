/-! Code points by the bytes of their encoding. -/
namespace Lexical.Text

/-- The bytes of a code point. -/
def utf8 (n : Nat) : List Nat :=
  if n < 0x80 then [n]
  else if n < 0x800 then [0xc0 + n / 0x40, 0x80 + n % 0x40]
  else if n < 0x10000 then [0xe0 + n / 0x1000, 0x80 + n / 0x40 % 0x40, 0x80 + n % 0x40]
  else [0xf0 + n / 0x40000, 0x80 + n / 0x1000 % 0x40, 0x80 + n / 0x40 % 0x40, 0x80 + n % 0x40]

/-- Where to divide a range of code points of one length, if it is no product of ranges of bytes: the
last code point before the cut. Below it or above it, the last bytes take all their values. -/
def cut? (first last : Nat) : Option Nat :=
  [0x40, 0x1000, 0x40000].findSome? fun block =>
    if first / block = last / block then none
    else if first % block ≠ 0 then some (first / block * block + (block - 1))
    else if last % block ≠ block - 1 then some (last / block * block - 1)
    else none

/-- The products of ranges of bytes that a range of code points is made of, in order. It is divided
before and behind the surrogates, where the length grows, and then at most twice for each byte but
the first. -/
def byteRanges (first last : Nat) : List (List (Nat × Nat)) :=
  go 16 first last
where
  go : Nat → Nat → Nat → List (List (Nat × Nat))
    | 0, _, _ => []
    | fuel + 1, first, last =>
      if first < 0xe000 ∧ 0xd7ff < last then go fuel first 0xd7ff ++ go fuel 0xe000 last
      else if last < first then []
      else
        let longer := [0x7f, 0x7ff, 0xffff].find? fun most => first ≤ most && most < last
        match longer.or (if last < 0x80 then none else cut? first last) with
        | some most => go fuel first most ++ go fuel (most + 1) last
        | none => [(utf8 first).zip (utf8 last)]

end Lexical.Text
