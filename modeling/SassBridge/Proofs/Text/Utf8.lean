import SassBridge.Text.Utf8

/-! UTF-8 reads back what it writes. The decoder is followed octet by octet, so that the octets may also come
one at a time out of something else, as escapes do. -/

namespace SassBridge.Utf8

/-- What the decoder yields on octets, and the state that they leave it in. -/
def feedAll (state : State) : List UInt8 → List Char × State
  | [] => ([], state)
  | octet :: rest =>
    let (chars, next) := feed state octet
    let (more, last) := feedAll next rest
    (chars ++ more, last)

theorem feedAll_nil (state : State) : feedAll state [] = ([], state) := rfl

theorem feedAll_cons (state : State) (octet : UInt8) (rest : List UInt8) :
    feedAll state (octet :: rest) =
      ((feed state octet).1 ++ (feedAll (feed state octet).2 rest).1,
        (feedAll (feed state octet).2 rest).2) := rfl

theorem decodeFrom_append (state : State) (octets rest : List UInt8) :
    decodeFrom state (octets ++ rest) =
      (feedAll state octets).1 ++ decodeFrom (feedAll state octets).2 rest := by
  induction octets generalizing state with
  | nil => rfl
  | cons octet octets ih => simp only [List.cons_append, decodeFrom, feedAll_cons, ih, List.append_assoc]

theorem toNat_octet {n : Nat} (hn : n < 0x100) : (UInt8.ofNat n).toNat = n :=
  UInt8.toNat_ofNat_of_lt' hn

/-- A continuation octet within the bounds carries the open sequence on. -/
theorem feed_more {missing low high value n : Nat} (hmissing : 1 < missing) (hlow : low ≤ 0x80 + n)
    (hhigh : 0x80 + n ≤ high) (hn : n < 0x40) :
    feed (.expecting missing low high value) (.ofNat (0x80 + n)) =
      ([], .expecting (missing - 1) 0x80 0xBF (value * 0x40 + n)) := by
  simp only [feed, toNat_octet (show 0x80 + n < 0x100 by omega)]
  rw [if_pos ⟨hlow, hhigh⟩, if_neg (by omega), Nat.add_sub_cancel_left]

/-- The last continuation octet completes it. -/
theorem feed_last {value n : Nat} {c : Char} (hn : n < 0x40) (hc : value * 0x40 + n = c.toNat) :
    feed (.expecting 1 0x80 0xBF value) (.ofNat (0x80 + n)) = ([c], .ready) := by
  simp only [feed, toNat_octet (show 0x80 + n < 0x100 by omega)]
  rw [if_pos ⟨by omega, by omega⟩, if_pos (by omega), Nat.add_sub_cancel_left, hc, Char.ofNat_toNat]

theorem feedAll_open {state next : State} {octet : UInt8} (hfeed : feed state octet = ([], next))
    (rest : List UInt8) : feedAll state (octet :: rest) = feedAll next rest := by
  rw [feedAll_cons, hfeed]
  rfl

theorem feedAll_close {state next : State} {octet : UInt8} {chars : List Char}
    (hfeed : feed state octet = (chars, next)) : feedAll state [octet] = (chars, next) := by
  rw [feedAll_cons, hfeed, feedAll_nil, List.append_nil]

theorem feed_ready_one {n : Nat} (hn : n < 0x80) : feed .ready (.ofNat n) = ([Char.ofNat n], .ready) := by
  rw [feed, begin, toNat_octet (by omega), if_pos hn]

theorem feed_ready_two {n : Nat} (hlow : 2 ≤ n) (hn : n < 0x20) :
    feed .ready (.ofNat (0xC0 + n)) = ([], .expecting 1 0x80 0xBF n) := by
  rw [feed, begin, toNat_octet (by omega), if_neg (by omega), if_neg (by omega), if_pos (by omega),
    Nat.add_sub_cancel_left]

theorem feed_ready_three {n : Nat} (hn : n < 0x10) :
    feed .ready (.ofNat (0xE0 + n)) =
      ([], .expecting 2 (if n = 0 then 0xA0 else 0x80) (if n = 0xD then 0x9F else 0xBF) n) := by
  rw [feed, begin, toNat_octet (by omega), if_neg (by omega), if_neg (by omega), if_neg (by omega),
    if_pos (by omega), Nat.add_sub_cancel_left]
  simp only [Nat.add_eq_left, show 0xE0 + n = 0xED ↔ n = 0xD by omega]

theorem feed_ready_four {n : Nat} (hn : n < 5) :
    feed .ready (.ofNat (0xF0 + n)) =
      ([], .expecting 3 (if n = 0 then 0x90 else 0x80) (if n = 4 then 0x8F else 0xBF) n) := by
  rw [feed, begin, toNat_octet (by omega), if_neg (by omega), if_neg (by omega), if_neg (by omega),
    if_neg (by omega), if_pos (by omega), Nat.add_sub_cancel_left]
  simp only [Nat.add_eq_left, show 0xF0 + n = 0xF4 ↔ n = 4 by omega]

/-- The octets of a character yield it and leave nothing open. -/
theorem feedAll_encodeChar (c : Char) : feedAll .ready (encodeChar c) = ([c], .ready) := by
  have hvalid : c.toNat < 0xD800 ∨ (0xDFFF < c.toNat ∧ c.toNat < 0x110000) := c.valid
  simp only [encodeChar]
  split
  · next hone =>
    apply feedAll_close
    rw [feed_ready_one hone, Char.ofNat_toNat]
  split
  · next hone htwo =>
    rw [feedAll_open (feed_ready_two (n := c.toNat / 0x40) (by omega) (by omega))]
    exact feedAll_close (feed_last (by omega) (by omega))
  split
  · next hone htwo hthree =>
    rw [feedAll_open (feed_ready_three (n := c.toNat / 0x1000) (by omega)),
      feedAll_open (feed_more (n := c.toNat / 0x40 % 0x40) (by omega) (by split <;> omega)
        (by split <;> omega) (by omega))]
    exact feedAll_close (feed_last (by omega) (by omega))
  · next hone htwo hthree =>
    rw [feedAll_open (feed_ready_four (n := c.toNat / 0x40000) (by omega)),
      feedAll_open (feed_more (n := c.toNat / 0x1000 % 0x40) (by omega) (by split <;> omega)
        (by split <;> omega) (by omega)),
      feedAll_open (feed_more (n := c.toNat / 0x40 % 0x40) (by omega) (by omega) (by omega) (by omega))]
    exact feedAll_close (feed_last (by omega) (by omega))

theorem decode_encode (text : List Char) : decode (encode text) = text := by
  induction text with
  | nil => rfl
  | cons c text ih =>
      rw [decode] at ih ⊢
      rw [encode, List.flatMap_cons, ← encode, decodeFrom_append, feedAll_encodeChar, ih, List.singleton_append]

end SassBridge.Utf8
