import Mathlib.Data.List.DropRight
import Mathlib.Algebra.Ring.Int.Defs

namespace TunnelCore.Text

def toUtf8 (text : List Char) : List UInt8 := text.flatMap String.utf8EncodeChar

/-- A byte that starts no character is read as U+FFFD. -/
def decodeUtf8 : Nat → List UInt8 → List Char
  | 0, _ => []
  | fuel + 1, bytes =>
    if bytes = [] then []
    else
      match bytes.toByteArray.utf8DecodeChar? 0 with
      | some c => c :: decodeUtf8 fuel (bytes.drop c.utf8Size)
      | none => '\uFFFD' :: decodeUtf8 fuel bytes.tail

/-- The byte order mark is dropped from the front. -/
def fromUtf8 (bytes : List UInt8) : List Char :=
  match decodeUtf8 bytes.length bytes with
  | '\uFEFF' :: text => text
  | text => text

theorem decodeUtf8_toUtf8 (text : List Char) {fuel : Nat} (h : (toUtf8 text).length ≤ fuel) :
    decodeUtf8 fuel (toUtf8 text) = text := by
  induction text generalizing fuel with
  | nil => cases fuel <;> rfl
  | cons c text ih =>
    have hbytes : toUtf8 (c :: text) = String.utf8EncodeChar c ++ toUtf8 text := rfl
    have hpos := c.utf8Size_pos
    have hlen := String.length_utf8EncodeChar c
    rw [hbytes, List.length_append] at h
    cases fuel with
    | zero => omega
    | succ fuel =>
      have hne : toUtf8 (c :: text) ≠ [] := by
        rw [hbytes]
        exact List.append_ne_nil_of_left_ne_nil (List.ne_nil_of_length_pos (by omega)) _
      have hchar : (toUtf8 (c :: text)).toByteArray.utf8DecodeChar? 0 = some c := List.utf8DecodeChar?_utf8Encode_cons
      have hrest : (toUtf8 (c :: text)).drop c.utf8Size = toUtf8 text := by rw [hbytes, ← hlen, List.drop_left]
      rw [decodeUtf8, if_neg hne, hchar]
      simp only [hrest, ih (show (toUtf8 text).length ≤ fuel by omega)]

theorem fromUtf8_toUtf8 {text : List Char} (h : text.head? ≠ some '\uFEFF') : fromUtf8 (toUtf8 text) = text := by
  rw [fromUtf8, decodeUtf8_toUtf8 text le_rfl]
  split
  · exact absurd rfl h
  · rfl

def isSpace (c : Char) : Bool :=
  (9 ≤ c.toNat ∧ c.toNat ≤ 13) ∨ (0x2000 ≤ c.toNat ∧ c.toNat ≤ 0x200A) ∨
    c.toNat ∈ [0x20, 0x85, 0xA0, 0x1680, 0x2028, 0x2029, 0x202F, 0x205F, 0x3000]

variable {c : Char} {cs : List Char} {s : String} {sep : Char}

theorem rdropWhile_append {α : Type*} (p : α → Bool) (a b : List α) :
    (a ++ b).rdropWhile p = if ∀ x ∈ b, p x then a.rdropWhile p else a ++ b.rdropWhile p := by
  induction b using List.reverseRecOn with
  | nil => simp
  | append_singleton b x ih =>
    rw [← List.append_assoc]
    by_cases hx : p x
    · rw [List.rdropWhile_concat_pos p _ x hx, List.rdropWhile_concat_pos p _ x hx, ih]
      exact if_congr (by simp [hx, or_imp, forall_and]) rfl rfl
    · rw [List.rdropWhile_concat_neg p _ x hx, List.rdropWhile_concat_neg p _ x hx, if_neg]
      · exact List.append_assoc ..
      · exact fun h => hx (h x (by simp))

def trimmed (s : String) : String := .ofList ((s.toList.dropWhile isSpace).rdropWhile isSpace)

theorem dropWhile_of_prefix {α : Type*} {p : α → Bool} {l₁ l₂ : List α} (h : l₁ <+: l₂)
    (h₂ : l₂.dropWhile p = l₂) : l₁.dropWhile p = l₁ := by
  cases l₁ with
  | nil => rfl
  | cons x xs =>
    obtain ⟨rest, rfl⟩ := h
    have hx : ¬ p x := List.dropWhile_eq_self_iff.mp h₂ (Nat.succ_pos _)
    exact List.dropWhile_cons_of_neg hx

theorem trimmed_trimmed (s : String) : trimmed (trimmed s) = trimmed s := by
  have hfront : ((s.toList.dropWhile isSpace).rdropWhile isSpace).dropWhile isSpace =
      (s.toList.dropWhile isSpace).rdropWhile isSpace :=
    dropWhile_of_prefix (List.rdropWhile_prefix _ _) (List.dropWhile_idempotent _ _)
  rw [trimmed, trimmed, String.toList_ofList, hfront, List.rdropWhile_idempotent]

theorem trimmed_of_forall (h : ∀ c ∈ s.toList, isSpace c = false) : trimmed s = s := by
  have hfront : s.toList.dropWhile isSpace = s.toList := by
    rw [List.dropWhile_eq_self_iff]
    intro hlen
    rw [h _ (List.getElem_mem hlen)]
    exact Bool.false_ne_true
  have hback : s.toList.rdropWhile isSpace = s.toList := by
    rw [List.rdropWhile_eq_self_iff]
    intro hne
    rw [h _ (List.getLast_mem hne)]
    exact Bool.false_ne_true
  rw [trimmed, hfront, hback, String.ofList_toList]

def decimal (digits : List Char) : Nat := digits.foldl (fun n c => 10 * n + (c.toNat - '0'.toNat)) 0

theorem decimal_toDigits (n : Nat) : decimal (Nat.toDigits 10 n) = n := Nat.ofDigitChars_ten_toDigits

theorem decimal_le_append (digits more : List Char) : decimal digits ≤ decimal (digits ++ more) := by
  rw [decimal, decimal, List.foldl_append]
  generalize digits.foldl (fun n c => 10 * n + (c.toNat - '0'.toNat)) 0 = n
  induction more generalizing n with
  | nil => exact Nat.le_refl n
  | cons c more ih =>
    refine Nat.le_trans ?_ (ih (10 * n + (c.toNat - '0'.toNat)))
    omega

def textToInt (text : String) : Option Int :=
  match (trimmed text).toList with
  | '-' :: digits => fit (-decimal digits) digits
  | '+' :: digits => fit (decimal digits) digits
  | digits => fit (decimal digits) digits
where
  fit (n : Int) (digits : List Char) : Option Int :=
    if digits ≠ [] ∧ digits.all Char.isDigit ∧ -2 ^ 31 ≤ n ∧ n < 2 ^ 31 then some n else none

def textToLongLong (text : String) : Option Int :=
  match (trimmed text).toList with
  | '-' :: digits => fit (-decimal digits) digits
  | '+' :: digits => fit (decimal digits) digits
  | digits => fit (decimal digits) digits
where
  fit (n : Int) (digits : List Char) : Option Int :=
    if digits ≠ [] ∧ digits.all Char.isDigit ∧ -2 ^ 63 ≤ n ∧ n < 2 ^ 63 then some n else none

/-- `QVariant(text).toBool()` -/
def variantToBool (text : String) : Bool := text.toLower ≠ "" ∧ text.toLower ≠ "0" ∧ text.toLower ≠ "false"

theorem length_splitOn_eq_one_iff {α : Type*} [BEq α] [LawfulBEq α] {sep : α} {xs : List α} :
    (xs.splitOn sep).length = 1 ↔ sep ∉ xs := by
  constructor
  · intro h hmem
    obtain ⟨a, b, rfl⟩ := List.append_of_mem hmem
    rw [List.splitOn_append_cons_self, List.length_append] at h
    have ha := List.length_pos_iff.mpr (List.splitOn_ne_nil sep a)
    have hb := List.length_pos_iff.mpr (List.splitOn_ne_nil sep b)
    omega
  · intro h
    rw [List.splitOn_eq_singleton h, List.length_singleton]

/-- `QString::section(sep, 0, 0, SectionSkipEmpty)`: the first part between separators that is not
empty. -/
def firstSection (sep : Char) (cs : List Char) : List Char := ((cs.splitOn sep).find? (· ≠ [])).getD []

theorem firstSection_of_not_mem (h : sep ∉ cs) : firstSection sep cs = cs := by
  rw [firstSection, List.splitOn_eq_singleton h]
  cases cs <;> rfl

theorem firstSection_eq_takeWhile (h : cs.head? ≠ some sep) :
    firstSection sep cs = cs.takeWhile (· ≠ sep) := by
  have hmem : sep ∉ cs.takeWhile (· ≠ sep) := by
    intro hsep
    have hne := List.mem_takeWhile_imp hsep
    simp at hne
  have hsplit : cs.takeWhile (· ≠ sep) ++ cs.dropWhile (· ≠ sep) = cs := List.takeWhile_append_dropWhile
  cases hrest : cs.dropWhile (· ≠ sep) with
  | nil =>
    rw [hrest, List.append_nil] at hsplit
    rw [hsplit] at hmem ⊢
    exact firstSection_of_not_mem hmem
  | cons d rest =>
    have hd : d = sep := by
      have hhead := List.head?_dropWhile_not (fun x => decide (x ≠ sep)) cs
      rw [hrest] at hhead
      simpa using hhead
    have hne : cs.takeWhile (· ≠ sep) ≠ [] := by
      intro hnil
      rw [hnil, hrest, hd] at hsplit
      exact h (hsplit ▸ rfl)
    rw [hrest, hd] at hsplit
    have hparts : cs.splitOn sep = [cs.takeWhile (· ≠ sep)] ++ rest.splitOn sep := by
      rw [← List.splitOn_eq_singleton hmem, ← List.splitOn_append_cons_self, hsplit]
    rw [firstSection, hparts, List.singleton_append, List.find?_cons_of_pos (by simpa using hne)]
    rfl

def lines (text : String) : List String := (text.toList.splitOn '\n').map .ofList

def unlines (ls : List String) : String := .join (ls.map (· ++ "\n"))

def OneLine (s : String) : Prop := '\n' ∉ s.toList

instance (s : String) : Decidable (OneLine s) := inferInstanceAs (Decidable (¬_))

theorem lines_of_oneLine (h : OneLine s) : lines s = [s] := by
  rw [lines, List.splitOn_eq_singleton h, List.map_singleton, String.ofList_toList]

theorem lines_ne_nil (s : String) : lines s ≠ [] := fun h => List.splitOn_ne_nil _ _ (List.map_eq_nil_iff.mp h)

theorem length_lines_eq_one_iff : (lines s).length = 1 ↔ OneLine s := by
  rw [lines, List.length_map]
  exact length_splitOn_eq_one_iff

theorem unlines_cons_ne_empty (l : String) (ls : List String) : unlines (l :: ls) ≠ "" := by
  intro h
  have hchars := congrArg String.toList h
  simp [unlines, String.join_cons] at hchars

theorem lines_unlines (ls : List String) : lines (unlines ls) = ls.flatMap lines ++ [""] := by
  induction ls with
  | nil => rfl
  | cons l ls ih =>
    have hsplit : lines (unlines (l :: ls)) = lines l ++ lines (unlines ls) := by
      rw [unlines, List.map_cons, String.join_cons, ← unlines, lines, String.toList_append, String.toList_append,
        List.append_assoc, show "\n".toList ++ (unlines ls).toList = '\n' :: (unlines ls).toList from rfl,
        List.splitOn_append_cons_self, List.map_append, ← lines, ← lines]
    rw [hsplit, ih, List.flatMap_cons, List.append_assoc]

theorem length_lines_unlines_iff {ls : List String} :
    (lines (unlines ls)).length = ls.length + 1 ↔ ∀ l ∈ ls, OneLine l := by
  have hle : ∀ ls : List String, ls.length ≤ (ls.flatMap lines).length := by
    intro ls
    induction ls with
    | nil => exact Nat.le_refl 0
    | cons l ls ih =>
      have hl := List.length_pos_iff.mpr (lines_ne_nil l)
      rw [List.flatMap_cons, List.length_append, List.length_cons]
      omega
  rw [lines_unlines, List.length_append, List.length_singleton, Nat.add_right_cancel_iff]
  induction ls with
  | nil => simp
  | cons l ls ih =>
    have hl := List.length_pos_iff.mpr (lines_ne_nil l)
    have hls := hle ls
    rw [List.forall_mem_cons, ← length_lines_eq_one_iff, List.flatMap_cons, List.length_append, List.length_cons]
    constructor
    · intro h
      exact ⟨by omega, ih.mp (by omega)⟩
    · rintro ⟨h, hrest⟩
      have := ih.mpr hrest
      omega

theorem lines_unlines_of_oneLine {ls : List String} (h : ∀ l ∈ ls, OneLine l) : lines (unlines ls) = ls ++ [""] := by
  rw [lines_unlines]
  congr 1
  induction ls with
  | nil => rfl
  | cons l ls ih =>
    rw [List.forall_mem_cons] at h
    rw [List.flatMap_cons, lines_of_oneLine h.1, ih h.2, List.singleton_append]

@[simp]
theorem oneLine_append {s t : String} : OneLine (s ++ t) ↔ OneLine s ∧ OneLine t := by
  rw [OneLine, String.toList_append, List.mem_append, not_or, OneLine, OneLine]

theorem oneLine_intercalate {sep : String} (hsep : OneLine sep) {ts : List String} :
    OneLine (sep.intercalate ts) ↔ ∀ t ∈ ts, OneLine t := by
  rw [OneLine, String.toList_intercalate]
  induction ts with
  | nil => simp
  | cons t ts ih =>
    cases ts with
    | nil => simp [OneLine]
    | cons u ts =>
      rw [List.map_cons, List.map_cons, List.intercalate_cons_cons, List.forall_mem_cons, ← ih, List.mem_append,
        List.mem_append, not_or, not_or]
      exact ⟨fun h => ⟨h.1.1, h.2⟩, fun h => ⟨⟨h.1, hsep⟩, h.2⟩⟩

theorem oneLine_nat (n : Nat) : OneLine (toString n) := by
  intro h
  have hdigit := Nat.isDigit_of_mem_toDigits (by decide) (by decide) (Nat.toList_repr ▸ h : '\n' ∈ Nat.toDigits 10 n)
  exact absurd hdigit (by decide)

theorem oneLine_int (n : Int) : OneLine (toString n) := by
  change OneLine (Int.repr n)
  rw [Int.repr_eq_if]
  split
  · exact oneLine_nat _
  · exact oneLine_append.mpr ⟨by decide, oneLine_nat _⟩

end TunnelCore.Text
