import FarmNetworking.Socket.EthernetUtils
import Mathlib.Data.List.TakeWhile

/-!
# The format of hardware addresses

`stringToMAC` documents its argument as six groups of two hexadecimal digits with
colons between them.  What it accepts is what the conversions of `sscanf` accept.
Both languages are defined here on their own, and the second is strictly larger.
-/

namespace FarmNetworking
namespace Socket
namespace EthernetUtils

open Structs

/-!
## The documented format
-/

/-- Groups of two digits with single colons between them, and their values. -/
inductive Spells : List Char -> List UInt8 -> Prop where
  | last {a b : Char} {m n : Nat} (ha : hexDigit? a = some m)
      (hb : hexDigit? b = some n) : Spells [a, b] [UInt8.ofNat (m * 16 + n)]
  | group {a b : Char} {m n : Nat} {rest : List Char} {bytes : List UInt8}
      (ha : hexDigit? a = some m) (hb : hexDigit? b = some n)
      (hrest : Spells rest bytes) :
      Spells (a :: b :: ':' :: rest) (UInt8.ofNat (m * 16 + n) :: bytes)

/-- The string is `XX:XX:XX:XX:XX:XX` and denotes these six bytes. -/
def Denotes (address : String) (mac : MacAddress) : Prop :=
  Spells address.toList mac.toList

def InFormat (address : String) : Prop :=
  exists mac : MacAddress, Denotes address mac

/-!
## The language of the conversions
-/

/-- What `%02X` converts: one or two digits, a sign and one digit, or a prefix. -/
inductive Item : List Char -> Prop where
  | digit {a : Char} {m : Nat} (ha : hexDigit? a = some m) : Item [a]
  | digits {a b : Char} {m n : Nat} (ha : hexDigit? a = some m)
      (hb : hexDigit? b = some n) : Item [a, b]
  | signed {sign a : Char} {m : Nat} (hsign : sign = '+' ∨ sign = '-')
      (ha : hexDigit? a = some m) : Item [sign, a]
  | hexPrefix {x : Char} (hx : x = 'x' ∨ x = 'X') : Item ['0', x]

def Blank (text : List Char) : Prop :=
  forall c, c ∈ text -> isSpace c = true

/--
White space is allowed before every item, and anything may follow the last one.
-/
inductive Scans : Nat -> List Char -> Prop where
  | last {blank item rest : List Char} (hblank : Blank blank)
      (hitem : Item item) : Scans 1 (blank ++ (item ++ rest))
  | group {n : Nat} {blank item rest : List Char} (hblank : Blank blank)
      (hitem : Item item) (hrest : Scans (n + 1) rest) :
      Scans (n + 2) (blank ++ (item ++ ':' :: rest))

def Scannable (address : String) : Prop :=
  Scans 6 (address.toList.takeWhile (· ≠ '\x00'))

/-!
## One conversion
-/

theorem hexDigit?_cases {c : Char} {d : Nat} (h : hexDigit? c = some d) :
    (48 ≤ c.toNat ∧ c.toNat ≤ 57 ∧ d = c.toNat - 48) ∨
      (97 ≤ c.toNat ∧ c.toNat ≤ 102 ∧ d = c.toNat - 97 + 10) ∨
      (65 ≤ c.toNat ∧ c.toNat ≤ 70 ∧ d = c.toNat - 65 + 10) := by
  unfold hexDigit? at h
  split at h
  next hc =>
    injection h with h
    exact Or.inl ⟨hc.left, hc.right, h.symm⟩
  next =>
    split at h
    next hc =>
      injection h with h
      exact Or.inr (Or.inl ⟨hc.left, hc.right, h.symm⟩)
    next =>
      split at h
      next hc =>
        injection h with h
        exact Or.inr (Or.inr ⟨hc.left, hc.right, h.symm⟩)
      next => cases h

theorem hexDigit?_lt {c : Char} {d : Nat} (h : hexDigit? c = some d) : d < 16 := by
  have hcases := hexDigit?_cases h
  lia

theorem hexDigit?_ne {c other : Char} {d : Nat} (h : hexDigit? c = some d)
    (hother : hexDigit? other = none) : c ≠ other := by
  rintro rfl
  rw [h] at hother
  cases hother

theorem hexDigit?_not_space {c : Char} {d : Nat} (h : hexDigit? c = some d) :
    isSpace c = false := by
  simp only [isSpace, Bool.or_eq_false_iff, decide_eq_false_iff_not]
  refine ⟨⟨⟨⟨⟨?_, ?_⟩, ?_⟩, ?_⟩, ?_⟩, ?_⟩
  all_goals exact hexDigit?_ne h (by decide)

theorem scanHex2_blank {blank : List Char} (h : Blank blank) (input : List Char) :
    scanHex2 (blank ++ input) = scanHex2 input := by
  rw [scanHex2, scanHex2, List.dropWhile_append_of_pos h]

theorem scanHex2_hexPrefix {x : Char} (hx : x = 'x' ∨ x = 'X') (rest : List Char) :
    scanHex2 ('0' :: x :: rest) = some (0, rest) := by
  rcases hx with rfl | rfl
  · simp [scanHex2, isSpace]
  · simp [scanHex2, isSpace]

theorem scanHex2_unsigned {a : Char} {m : Nat} (ha : hexDigit? a = some m)
    {rest : List Char}
    (hx : forall x tail, x = 'x' ∨ x = 'X' -> a :: rest ≠ '0' :: x :: tail) :
    scanHex2 (a :: rest) =
      (scanDigits 2 0 (a :: rest)).map fun (n, rest) => (UInt32.ofNat n, rest) := by
  have hskip : (a :: rest).dropWhile isSpace = a :: rest :=
    List.dropWhile_cons_of_neg (by rw [hexDigit?_not_space ha]; decide)
  rw [scanHex2, hskip]
  split
  next heq =>
    injection heq with hhead
    exact absurd hhead (hexDigit?_ne ha (by decide))
  next heq =>
    injection heq with hhead
    exact absurd hhead (hexDigit?_ne ha (by decide))
  next tail heq => exact absurd heq (hx 'x' tail (Or.inl rfl))
  next tail heq => exact absurd heq (hx 'X' tail (Or.inr rfl))
  next => rfl

theorem scanHex2_digits {a b : Char} {m n : Nat} (ha : hexDigit? a = some m)
    (hb : hexDigit? b = some n) (rest : List Char) :
    scanHex2 (a :: b :: rest) = some (UInt32.ofNat (m * 16 + n), rest) := by
  have hx : forall x tail, x = 'x' ∨ x = 'X' ->
      a :: b :: rest ≠ '0' :: x :: tail := by
    rintro x tail (rfl | rfl) ⟨⟩ <;> cases hb
  rw [scanHex2_unsigned ha hx]
  simp [scanDigits, ha, hb]

theorem scanHex2_colon_digit {a : Char} {m : Nat} (ha : hexDigit? a = some m)
    (rest : List Char) :
    scanHex2 (a :: ':' :: rest) = some (UInt32.ofNat m, ':' :: rest) := by
  have hx : forall x tail, x = 'x' ∨ x = 'X' ->
      a :: ':' :: rest ≠ '0' :: x :: tail := by
    rintro x tail (rfl | rfl) ⟨⟩
  have hcolon : hexDigit? ':' = none := by decide
  rw [scanHex2_unsigned ha hx]
  simp [scanDigits, ha, hcolon]

theorem scanHex2_signed {sign a : Char} {m : Nat} (hsign : sign = '+' ∨ sign = '-')
    (ha : hexDigit? a = some m) (rest : List Char) :
    exists value, scanHex2 (sign :: a :: rest) = some (value, rest) := by
  rcases hsign with rfl | rfl
  · exists UInt32.ofNat m
    simp [scanHex2, isSpace, scanDigits, ha]
  · exists 0 - UInt32.ofNat m
    simp [scanHex2, isSpace, scanDigits, ha]

theorem scanDigits_isSome {a : Char} {m : Nat} (ha : hexDigit? a = some m)
    (width acc : Nat) (rest : List Char) :
    (scanDigits (width + 1) acc (a :: rest)).isSome := by
  rw [scanDigits, ha]
  dsimp only
  split <;> rfl

theorem scanDigits_one {acc n : Nat} {input rest : List Char}
    (h : scanDigits 1 acc input = some (n, rest)) :
    exists (a : Char) (m : Nat), hexDigit? a = some m ∧ input = a :: rest := by
  cases input with
  | nil => cases h
  | cons a tail =>
      cases ha : hexDigit? a with
      | none => simp [scanDigits, ha] at h
      | some m =>
          simp only [scanDigits, ha, Option.some.injEq, Prod.mk.injEq] at h
          exact ⟨a, m, ha, by rw [h.right]⟩

theorem scanDigits_two {acc n : Nat} {input rest : List Char}
    (h : scanDigits 2 acc input = some (n, rest)) :
    (exists item, Item item ∧ input = item ++ rest) ∨
      exists (a : Char) (m : Nat), hexDigit? a = some m ∧ input = a :: rest := by
  cases input with
  | nil => cases h
  | cons a tail =>
      cases ha : hexDigit? a with
      | none => simp [scanDigits, ha] at h
      | some m =>
          rw [scanDigits, ha] at h
          cases hsecond : scanDigits 1 (acc * 16 + m) tail with
          | none =>
              simp only [hsecond, Option.some.injEq, Prod.mk.injEq] at h
              exact Or.inr ⟨a, m, ha, by rw [h.right]⟩
          | some r =>
              rcases r with ⟨value, rest'⟩
              simp only [hsecond, Option.some.injEq, Prod.mk.injEq] at h
              rcases scanDigits_one hsecond with ⟨b, k, hb, htail⟩
              exact Or.inl ⟨[a, b], .digits ha hb, by
                rw [htail, h.right]
                rfl⟩

theorem scanHex2_item {input rest : List Char} {value : UInt32}
    (h : scanHex2 input = some (value, rest)) :
    exists item : List Char, Item item ∧
      input.dropWhile isSpace = item ++ rest := by
  have hsigned : forall (sign : Char) (tail : List Char) (n : Nat),
      sign = '+' ∨ sign = '-' -> input.dropWhile isSpace = sign :: tail ->
      scanDigits 1 0 tail = some (n, rest) ->
        exists item : List Char, Item item ∧
          input.dropWhile isSpace = item ++ rest := by
    intro sign tail n hsign heq hscan
    rcases scanDigits_one hscan with ⟨a, m, ha, htail⟩
    exact ⟨[sign, a], .signed hsign ha, by
      rw [heq, htail]
      rfl⟩
  rw [scanHex2] at h
  split at h
  next tail heq =>
    rcases Option.map_eq_some_iff.mp h with ⟨⟨n, rest'⟩, hscan, hr⟩
    injection hr with _ hr
    subst hr
    exact hsigned '+' tail n (Or.inl rfl) heq hscan
  next tail heq =>
    rcases Option.map_eq_some_iff.mp h with ⟨⟨n, rest'⟩, hscan, hr⟩
    injection hr with _ hr
    subst hr
    exact hsigned '-' tail n (Or.inr rfl) heq hscan
  next tail heq =>
    cases h
    exact ⟨['0', 'x'], .hexPrefix (Or.inl rfl), heq⟩
  next tail heq =>
    cases h
    exact ⟨['0', 'X'], .hexPrefix (Or.inr rfl), heq⟩
  next =>
    rcases Option.map_eq_some_iff.mp h with ⟨⟨n, rest'⟩, hscan, hr⟩
    injection hr with _ hr
    subst hr
    rcases scanDigits_two hscan with ⟨item, hitem, hinput⟩ | ⟨a, m, ha, hinput⟩
    · exact ⟨item, hitem, hinput⟩
    · exact ⟨[a], .digit ha, hinput⟩

theorem scanHex2_eq_some {input rest : List Char} {value : UInt32}
    (h : scanHex2 input = some (value, rest)) :
    exists blank item : List Char, Blank blank ∧ Item item ∧
      input = blank ++ (item ++ rest) := by
  rcases scanHex2_item h with ⟨item, hitem, hdrop⟩
  refine ⟨input.takeWhile isSpace, item, ?_, hitem, ?_⟩
  · intro c hc
    exact List.all_eq_true.mp List.all_takeWhile c hc
  · rw [← hdrop, List.takeWhile_append_dropWhile]

theorem scanHex2_colon {blank item : List Char} (hblank : Blank blank)
    (hitem : Item item) (rest : List Char) :
    exists value,
      scanHex2 (blank ++ (item ++ ':' :: rest)) = some (value, ':' :: rest) := by
  rw [scanHex2_blank hblank]
  cases hitem with
  | digit ha => exact ⟨_, scanHex2_colon_digit ha rest⟩
  | digits ha hb => exact ⟨_, scanHex2_digits ha hb _⟩
  | signed hsign ha => exact scanHex2_signed hsign ha _
  | hexPrefix hx => exact ⟨0, scanHex2_hexPrefix hx _⟩

/-- A single digit takes one more character with it if that belongs to a number. -/
theorem scanHex2_isSome {blank item rest : List Char} (hblank : Blank blank)
    (hitem : Item item) : (scanHex2 (blank ++ (item ++ rest))).isSome := by
  rw [scanHex2_blank hblank]
  cases hitem with
  | @digit a m ha =>
      show (scanHex2 (a :: rest)).isSome
      by_cases hopen : exists x tail, (x = 'x' ∨ x = 'X') ∧
          a :: rest = '0' :: x :: tail
      · rcases hopen with ⟨x, tail, hx, heq⟩
        rw [heq, scanHex2_hexPrefix hx]
        rfl
      · have hx : forall x tail, x = 'x' ∨ x = 'X' ->
            a :: rest ≠ '0' :: x :: tail :=
          fun x tail hx heq => hopen ⟨x, tail, hx, heq⟩
        rw [scanHex2_unsigned ha hx, Option.isSome_map]
        exact scanDigits_isSome ha 1 0 rest
  | @digits a b m n ha hb =>
      show (scanHex2 (a :: b :: rest)).isSome
      rw [scanHex2_digits ha hb]
      rfl
  | @signed sign a m hsign ha =>
      rcases scanHex2_signed hsign ha rest with ⟨value, hscan⟩
      show (scanHex2 (sign :: a :: rest)).isSome
      rw [hscan]
      rfl
  | @hexPrefix x hx =>
      show (scanHex2 ('0' :: x :: rest)).isSome
      rw [scanHex2_hexPrefix hx]
      rfl

/-!
## Six conversions
-/

theorem scanGroups_isSome_iff (n : Nat) (input : List Char) :
    (scanGroups (n + 1) input).isSome = true <-> Scans (n + 1) input := by
  induction n generalizing input with
  | zero =>
      show (Option.map _ (scanHex2 input)).isSome = true <-> _
      rw [Option.isSome_map]
      constructor
      · intro h
        rcases Option.isSome_iff_exists.mp h with ⟨⟨value, rest⟩, hscan⟩
        rcases scanHex2_eq_some hscan with ⟨blank, item, hblank, hitem, rfl⟩
        exact .last hblank hitem
      · intro h
        cases h with
        | last hblank hitem => exact scanHex2_isSome hblank hitem
  | succ n ih =>
      constructor
      · intro h
        rw [scanGroups] at h
        split at h
        next value rest hscan =>
          rw [Option.isSome_map] at h
          rcases scanHex2_eq_some hscan with ⟨blank, item, hblank, hitem, rfl⟩
          exact .group hblank hitem ((ih rest).mp h)
        next => cases h
      · intro h
        cases h with
        | @group _ blank item rest hblank hitem hrest =>
            rcases scanHex2_colon hblank hitem rest with ⟨value, hscan⟩
            rw [scanGroups, hscan]
            simpa using (ih rest).mpr hrest

theorem scanGroups_length {n : Nat} {input : List Char} {values : List UInt32}
    (h : scanGroups n input = some values) : values.length = n := by
  induction n generalizing input values with
  | zero =>
      cases h
      rfl
  | succ n ih =>
      cases n with
      | zero =>
          rcases Option.map_eq_some_iff.mp h with ⟨_, _, rfl⟩
          rfl
      | succ n =>
          rw [scanGroups] at h
          split at h
          next =>
            rcases Option.map_eq_some_iff.mp h with ⟨tail, htail, rfl⟩
            rw [List.length_cons, ih htail]
          next => cases h

theorem stringToMAC_ne_none_iff (address : String) :
    stringToMAC address ≠ none <-> Scannable address := by
  rw [Scannable, ← scanGroups_isSome_iff, stringToMAC]
  cases hscan : scanGroups 6 (address.toList.takeWhile (· ≠ '\x00')) with
  | none => simp
  | some values =>
      have hlength := scanGroups_length hscan
      match values, hlength with
      | [a, b, c, d, e, f], _ => simp

/-!
## Strings in the format
-/

theorem Spells.length_pos {text : List Char} {bytes : List UInt8}
    (h : Spells text bytes) : exists n, bytes.length = n + 1 := by
  cases h with
  | last => exact ⟨0, rfl⟩
  | group => exact ⟨_, List.length_cons⟩

theorem scanGroups_colon {n : Nat} {input rest : List Char} {value : UInt32}
    (h : scanHex2 input = some (value, ':' :: rest)) :
    scanGroups (n + 2) input =
      (scanGroups (n + 1) rest).map fun values => value :: values := by
  rw [scanGroups, h]
  rfl

theorem scanGroups_spells {text : List Char} {bytes : List UInt8}
    (h : Spells text bytes) :
    exists values, scanGroups bytes.length text = some values ∧
      values.map UInt32.toUInt8 = bytes := by
  have hnarrow : forall k : Nat, (UInt32.ofNat k).toUInt8 = UInt8.ofNat k := by
    intro k
    apply UInt8.toNat_inj.mp
    rw [UInt32.toNat_toUInt8, UInt32.toNat_ofNat', UInt8.toNat_ofNat']
    lia
  induction h with
  | @last a b m n ha hb =>
      exists [UInt32.ofNat (m * 16 + n)]
      constructor
      · show Option.map _ (scanHex2 [a, b]) = _
        rw [scanHex2_digits ha hb]
        rfl
      · rw [List.map_singleton, hnarrow]
  | @group a b m n rest bytes ha hb hrest ih =>
      rcases ih with ⟨values, hvalues, hmap⟩
      rcases hrest.length_pos with ⟨k, hk⟩
      exists UInt32.ofNat (m * 16 + n) :: values
      constructor
      · rw [List.length_cons, hk, scanGroups_colon (scanHex2_digits ha hb _),
          ← hk, hvalues]
        rfl
      · rw [List.map_cons, hmap, hnarrow]

theorem Spells.no_nul {text : List Char} {bytes : List UInt8}
    (h : Spells text bytes) : forall c, c ∈ text -> c ≠ '\x00' := by
  induction h with
  | last ha hb =>
      intro c hc
      simp only [List.mem_cons, List.not_mem_nil, or_false] at hc
      rcases hc with rfl | rfl
      · exact hexDigit?_ne ha (by decide)
      · exact hexDigit?_ne hb (by decide)
  | group ha hb _ ih =>
      intro c hc
      simp only [List.mem_cons] at hc
      rcases hc with rfl | rfl | rfl | hrest
      · exact hexDigit?_ne ha (by decide)
      · exact hexDigit?_ne hb (by decide)
      · decide
      · exact ih c hrest

theorem stringToMAC_denotes {address : String} {mac : MacAddress}
    (h : Denotes address mac) : stringToMAC address = some mac := by
  have hwhole : address.toList.takeWhile (· ≠ '\x00') = address.toList := by
    apply List.takeWhile_eq_self_iff.mpr
    intro c hc
    exact decide_eq_true (h.no_nul c hc)
  rcases scanGroups_spells h with ⟨values, hvalues, hmap⟩
  rw [Vector.length_toList] at hvalues
  have hlength := scanGroups_length hvalues
  match values, hlength with
  | [a, b, c, d, e, f], _ =>
      rw [stringToMAC, hwhole, hvalues]
      apply congrArg some
      apply Vector.toList_inj.mp
      rw [← hmap]
      rfl

/-!
## Writing an address
-/

def hexChar (upper : Bool) (d : Nat) : Char :=
  if d < 10 then Char.ofNat (48 + d)
  else if upper then Char.ofNat (55 + d)
  else Char.ofNat (87 + d)

def formatBytes (upper : Bool) : List UInt8 -> List Char
  | [] => []
  | [b] => [hexChar upper (b.toNat / 16), hexChar upper (b.toNat % 16)]
  | b :: b' :: rest =>
      hexChar upper (b.toNat / 16) :: hexChar upper (b.toNat % 16) :: ':' ::
        formatBytes upper (b' :: rest)

def formatMAC (upper : Bool) (mac : MacAddress) : String :=
  String.ofList (formatBytes upper mac.toList)

theorem hexDigit?_hexChar (upper : Bool) {d : Nat} (h : d < 16) :
    hexDigit? (hexChar upper d) = some d := by
  have hall : forall (upper : Bool) (d : Fin 16),
      hexDigit? (hexChar upper d.val) = some d.val := by decide
  exact hall upper ⟨d, h⟩

theorem spells_formatBytes (upper : Bool) {bytes : List UInt8}
    (h : bytes ≠ []) : Spells (formatBytes upper bytes) bytes := by
  have hdigits : forall b : UInt8,
      hexDigit? (hexChar upper (b.toNat / 16)) = some (b.toNat / 16) ∧
        hexDigit? (hexChar upper (b.toNat % 16)) = some (b.toNat % 16) ∧
          UInt8.ofNat (b.toNat / 16 * 16 + b.toNat % 16) = b := by
    intro b
    have hb : b.toNat < 256 := b.toNat_lt
    refine ⟨hexDigit?_hexChar upper (by lia), hexDigit?_hexChar upper (by lia), ?_⟩
    rw [Nat.div_add_mod', UInt8.ofNat_toNat]
  induction bytes with
  | nil => exact absurd rfl h
  | cons b rest ih =>
      rcases hdigits b with ⟨hhigh, hlow, hvalue⟩
      cases rest with
      | nil =>
          have hlast := Spells.last hhigh hlow
          rw [hvalue] at hlast
          exact hlast
      | cons b' rest =>
          have hgroup := Spells.group hhigh hlow (ih (List.cons_ne_nil b' rest))
          rw [hvalue] at hgroup
          exact hgroup

theorem denotes_formatMAC (upper : Bool) (mac : MacAddress) :
    Denotes (formatMAC upper mac) mac := by
  rw [Denotes, formatMAC, String.toList_ofList]
  apply spells_formatBytes
  intro hnil
  have hlength : mac.toList.length = 6 := Vector.length_toList
  rw [hnil] at hlength
  cases hlength

def LetterCase (upper : Bool) (text : List Char) : Prop :=
  forall c, c ∈ text -> if upper then c.isLower = false else c.isUpper = false

theorem eq_hexChar {upper : Bool} {c : Char} {d : Nat}
    (h : hexDigit? c = some d)
    (hcase : if upper then c.isLower = false else c.isUpper = false) :
    c = hexChar upper d := by
  have hback : Char.ofNat c.toNat = c := Char.ofNat_toNat c
  have hlower : 97 ≤ c.toNat -> c.toNat ≤ 122 -> c.isLower = true := by
    intro hlow hhigh
    exact Bool.and_eq_true_iff.mpr ⟨decide_eq_true hlow, decide_eq_true hhigh⟩
  have hupper : 65 ≤ c.toNat -> c.toNat ≤ 90 -> c.isUpper = true := by
    intro hlow hhigh
    exact decide_eq_true ⟨hlow, hhigh⟩
  rcases hexDigit?_cases h with ⟨hlow, hhigh, hd⟩ | ⟨hlow, hhigh, hd⟩ |
    ⟨hlow, hhigh, hd⟩
  · rw [hexChar, if_pos (by lia), show 48 + d = c.toNat by lia, hback]
  · cases upper with
    | true =>
        rw [if_pos rfl, hlower hlow (by lia)] at hcase
        cases hcase
    | false =>
        rw [hexChar, if_neg (by lia), if_neg (by decide),
          show 87 + d = c.toNat by lia, hback]
  · cases upper with
    | true =>
        rw [hexChar, if_neg (by lia), if_pos rfl,
          show 55 + d = c.toNat by lia, hback]
    | false =>
        rw [if_neg (by decide), hupper hlow (by lia)] at hcase
        cases hcase

theorem Spells.eq_formatBytes {text : List Char} {bytes : List UInt8}
    (h : Spells text bytes) {upper : Bool} (hcase : LetterCase upper text) :
    text = formatBytes upper bytes := by
  have hsplit : forall m n : Nat, m < 16 -> n < 16 ->
      (UInt8.ofNat (m * 16 + n)).toNat / 16 = m ∧
        (UInt8.ofNat (m * 16 + n)).toNat % 16 = n := by
    intro m n hm hn
    rw [UInt8.toNat_ofNat']
    lia
  induction h with
  | @last a b m n ha hb =>
      rcases hsplit m n (hexDigit?_lt ha) (hexDigit?_lt hb) with ⟨hm, hn⟩
      rw [formatBytes, hm, hn,
        ← eq_hexChar ha (hcase a (by simp)), ← eq_hexChar hb (hcase b (by simp))]
  | @group a b m n rest bytes ha hb hrest ih =>
      rcases hsplit m n (hexDigit?_lt ha) (hexDigit?_lt hb) with ⟨hm, hn⟩
      have htail : rest = formatBytes upper bytes := by
        apply ih
        intro c hc
        exact hcase c (by simp [hc])
      cases bytes with
      | nil => cases hrest
      | cons byte bytes =>
          rw [formatBytes, hm, hn, ← htail,
            ← eq_hexChar ha (hcase a (by simp)),
            ← eq_hexChar hb (hcase b (by simp))]

/-!
## The documented format against the accepted one
-/

structure ReadsFormat (address : String) : Prop where
  accepts : stringToMAC address ≠ none <-> InFormat address
  values : forall mac, Denotes address mac -> stringToMAC address = some mac

theorem readsFormat_iff (address : String) :
    ReadsFormat address <-> InFormat address ∨ ¬Scannable address := by
  have hvalues : forall mac, Denotes address mac ->
      stringToMAC address = some mac := fun _ h => stringToMAC_denotes h
  rw [← stringToMAC_ne_none_iff]
  constructor
  · intro h
    rw [← h.accepts]
    exact em _
  · rintro (⟨mac, hmac⟩ | hnone)
    · refine ⟨⟨fun _ => ⟨mac, hmac⟩, fun _ => ?_⟩, hvalues⟩
      rw [stringToMAC_denotes hmac]
      exact Option.some_ne_none mac
    · refine ⟨⟨fun h => absurd h hnone, ?_⟩, hvalues⟩
      rintro ⟨mac, hmac⟩ h
      rw [stringToMAC_denotes hmac] at h
      cases h

/--
A string is read as documented exactly if it has the format or cannot be scanned.
Formatted addresses are read back, and among the accepted strings of one letter
case that are read as documented no two give the same address.
-/
theorem stringToMAC_format_iff (address : String) :
    (ReadsFormat address <-> InFormat address ∨ ¬Scannable address) ∧
    (forall (upper : Bool) (mac : MacAddress),
      stringToMAC (formatMAC upper mac) = some mac) ∧
    (forall (upper : Bool) (other : String),
      ReadsFormat address -> ReadsFormat other ->
      LetterCase upper address.toList -> LetterCase upper other.toList ->
      stringToMAC address ≠ none ->
      stringToMAC address = stringToMAC other -> address = other) := by
  refine ⟨readsFormat_iff address, ?_, ?_⟩
  · intro upper mac
    exact stringToMAC_denotes (denotes_formatMAC upper mac)
  · intro upper other hread hread' hcase hcase' hsome hsame
    rcases hread.accepts.mp hsome with ⟨mac, hmac⟩
    rw [hsame] at hsome
    rcases hread'.accepts.mp hsome with ⟨mac', hmac'⟩
    rw [stringToMAC_denotes hmac, stringToMAC_denotes hmac'] at hsame
    injection hsame with hsame
    subst hsame
    apply String.toList_inj.mp
    rw [hmac.eq_formatBytes hcase, hmac'.eq_formatBytes hcase']

theorem not_readsFormat_short_groups : ¬ReadsFormat "1:2:3:4:5:6" := by
  intro h
  rcases h.accepts.mp (by decide) with ⟨mac, hmac⟩
  have htext : "1:2:3:4:5:6".toList =
      ['1', ':', '2', ':', '3', ':', '4', ':', '5', ':', '6'] := by decide
  rw [Denotes, htext] at hmac
  generalize mac.toList = bytes at hmac
  -- neither a second digit nor the end of the string follows the first digit
  cases hmac

end EthernetUtils
end Socket
end FarmNetworking
