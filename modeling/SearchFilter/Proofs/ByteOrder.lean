/-
The order of texts and the order of their bytes.

Names are compared character by character here, and byte by byte where they are stored as UTF-8. The two orders are one:
the first byte of a character tells how many follow, and the more there are the greater it is; a byte after the first
holds six bits of the character, the higher bits before the lower ones.
- `continuation_lt`: a row of bytes with one more byte behind it keeps the order.
- `utf8EncodeChar_append_lt`: the bytes of single characters, whatever stands behind them.
- `utf8_lt`, `utf8_le_iff`: the bytes of whole texts.
-/
import Mathlib.Data.String.Basic
import Mathlib.Tactic

namespace SearchFilter.Text

/-- the bytes of a text -/
def utf8 (s : String) : List UInt8 := s.toUTF8.data.toList

theorem utf8_eq (s : String) : utf8 s = s.toList.flatMap String.utf8EncodeChar := by
  obtain ⟨chars, rfl⟩ : ∃ chars, s = String.ofList chars := ⟨s.toList, String.ofList_toList.symm⟩
  rw [String.toList_ofList]
  exact List.toList_data_toByteArray

/-! ## Single characters -/

theorem byte_cons_lt {m n : ℕ} (hlt : m < n) (hn : n < 256) (s t : List UInt8) :
    UInt8.ofNat m :: s < UInt8.ofNat n :: t := by
  apply List.cons_lt_cons_iff.2
  left
  rw [UInt8.lt_iff_toNat_lt, UInt8.toNat_ofNat', UInt8.toNat_ofNat']
  omega

/-- a byte after the first of a character: six bits of it -/
def continuation (n : ℕ) : UInt8 := .ofNat (n % 64 + 128)

theorem continuation_lt (f : ℕ → List UInt8) {m n : ℕ} (hlt : m < n)
    (hf : m / 64 < n / 64 → ∀ s t, f (m / 64) ++ s < f (n / 64) ++ t) (s t : List UInt8) :
    f (m / 64) ++ continuation m :: s < f (n / 64) ++ continuation n :: t := by
  rcases Nat.lt_or_eq_of_le (Nat.div_le_div_right (c := 64) hlt.le) with hdiv | hdiv
  · exact hf hdiv _ _
  · rw [hdiv]
    apply List.append_left_lt
    exact byte_cons_lt (by omega) (by omega) s t

def twoBytes (n : ℕ) : List UInt8 := [.ofNat (n / 64 % 32 + 192), continuation n]

def threeBytes (n : ℕ) : List UInt8 := [.ofNat (n / 64 / 64 % 16 + 224), continuation (n / 64), continuation n]

def fourBytes (n : ℕ) : List UInt8 :=
  [.ofNat (n / 64 / 64 / 64 % 8 + 240), continuation (n / 64 / 64), continuation (n / 64), continuation n]

theorem utf8EncodeChar_eq (c : Char) : String.utf8EncodeChar c =
    if c.toNat ≤ 127 then [.ofNat c.toNat] else if c.toNat ≤ 2047 then twoBytes c.toNat
    else if c.toNat ≤ 65535 then threeBytes c.toNat else fourBytes c.toNat := by
  have h3 : c.toNat / 4096 = c.toNat / 64 / 64 := by omega
  have h4 : c.toNat / 262144 = c.toNat / 64 / 64 / 64 := by omega
  rw [twoBytes, threeBytes, fourBytes, ← h4, ← h3]
  rfl

theorem twoBytes_lt {m n : ℕ} (hlt : m < n) (hn : n ≤ 2047) (s t : List UInt8) : twoBytes m ++ s < twoBytes n ++ t := by
  refine continuation_lt (fun q => [.ofNat (q % 32 + 192)]) hlt ?_ s t
  intro hq
  exact byte_cons_lt (by omega) (by omega)

theorem threeBytes_lt {m n : ℕ} (hlt : m < n) (hn : n ≤ 65535) (s t : List UInt8) :
    threeBytes m ++ s < threeBytes n ++ t := by
  refine continuation_lt (fun q => [.ofNat (q / 64 % 16 + 224), continuation q]) hlt ?_ s t
  intro hq
  refine continuation_lt (fun q => [.ofNat (q % 16 + 224)]) hq ?_
  intro hr
  exact byte_cons_lt (by omega) (by omega)

theorem fourBytes_lt {m n : ℕ} (hlt : m < n) (hn : n < 1114112) (s t : List UInt8) :
    fourBytes m ++ s < fourBytes n ++ t := by
  refine continuation_lt (fun q => [.ofNat (q / 64 / 64 % 8 + 240), continuation (q / 64), continuation q]) hlt ?_ s t
  intro hq
  refine continuation_lt (fun q => [.ofNat (q / 64 % 8 + 240), continuation q]) hq ?_
  intro hr
  refine continuation_lt (fun q => [.ofNat (q % 8 + 240)]) hr ?_
  intro hs
  exact byte_cons_lt (by omega) (by omega)

/-- a smaller character has smaller bytes, and none of the two starts with the other -/
theorem utf8EncodeChar_append_lt {c d : Char} (h : c < d) (s t : List UInt8) :
    String.utf8EncodeChar c ++ s < String.utf8EncodeChar d ++ t := by
  have hlt : c.toNat < d.toNat := h
  have hd : d.toNat < 1114112 := by
    rcases d.valid with hd | ⟨-, hd⟩
    · exact hd.trans (by decide)
    · exact hd
  rw [utf8EncodeChar_eq, utf8EncodeChar_eq]
  split_ifs with c1 d1 d2 d3 c2 d1 d2 d3 c3 d1 d2 d3 d1 d2 d3
  -- characters of different lengths differ in the first byte, and the shorter one is not the greater
  all_goals try omega
  all_goals try exact byte_cons_lt (by omega) (by omega) _ _
  · exact twoBytes_lt hlt d2 s t
  · exact threeBytes_lt hlt d3 s t
  · exact fourBytes_lt hlt hd s t

/-! ## Whole texts -/

theorem flatMap_utf8EncodeChar_lt {s t : List Char} (h : s < t) :
    s.flatMap String.utf8EncodeChar < t.flatMap String.utf8EncodeChar := by
  induction s generalizing t with
  | nil =>
    cases t with
    | nil => exact absurd h (List.lt_irrefl [])
    | cons d t =>
      rw [List.flatMap_nil, List.flatMap_cons]
      cases hbytes : String.utf8EncodeChar d with
      | nil => exact absurd hbytes String.utf8EncodeChar_ne_nil
      | cons b bs => exact List.nil_lt_cons b _
  | cons c s ih =>
    cases t with
    | nil => exact absurd h (List.not_lt_nil _)
    | cons d t =>
      rw [List.flatMap_cons, List.flatMap_cons]
      rcases List.cons_lt_cons_iff.1 h with hcd | ⟨rfl, hst⟩
      · exact utf8EncodeChar_append_lt hcd _ _
      · exact List.append_left_lt (ih hst)

theorem utf8_lt {s t : String} (h : s < t) : utf8 s < utf8 t := by
  rw [utf8_eq, utf8_eq]
  exact flatMap_utf8EncodeChar_lt h

/-- **Byte order.** Texts and their bytes are ordered alike. -/
theorem utf8_le_iff (s t : String) : utf8 s ≤ utf8 t ↔ s ≤ t := by
  constructor
  · intro h
    rw [← String.not_lt]
    intro hlt
    exact h (utf8_lt hlt)
  · intro h hlt
    rcases lt_trichotomy s t with hst | rfl | hts
    · exact List.lt_asymm hlt (utf8_lt hst)
    · exact List.lt_irrefl _ hlt
    · exact String.not_lt.2 h hts

end SearchFilter.Text
