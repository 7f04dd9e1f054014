import SecuredApp.Core.CString
import SecuredApp.Core.Text

/-!
# Specifiers

The SAs that a command terminates or rekeys are given by a specifier: a name, `name[]` or `name{}`
for the first SA of that name, `name[*]` or `name{*}` for all of them, or `[23]` or `{23}` for the
one with that number; the brackets say IKE_SAs, the braces CHILD_SAs.
-/

namespace SecuredApp

open SecuredApp.Core

/-- `atoi`, assigned to an unsigned integer of 32 bits. The number saturates at the bounds of an
integer of 64 bits. -/
def atoi (t : CStr) : ℕ :=
  let (sign, t) := Text.signed (Text.lstrip t)
  let value := sign * Nat.ofDigitChars 10 (t.takeWhile Char.isDigit) 0
  (max (-2 ^ 63) (min value (2 ^ 63 - 1)) % 2 ^ 32).toNat

/-- `strchr`, the text from the first such character on. -/
def strchr (t : CStr) (c : Char) : Option CStr :=
  if c ∈ t then some (t.dropWhile (· ≠ c)) else none

/-- What `parse_specifier` sets. -/
structure Specifier where
  id : ℕ
  name : Option CStr
  child : Bool
  all : Bool
deriving DecidableEq

/-- `parse_specifier`, of a string that ends with a bracket or a brace. -/
def parseEnclosed (string : CStr) (opening : Char) (child : Bool) : Option Specifier :=
  match strchr string opening with
  | none => none
  | some pos =>
    if pos.length = 2 then some ⟨0, some (string.take (string.length - 2)), child, false⟩
    else if (pos.drop 1).head? = some '*' then
      some ⟨0, some (string.takeWhile (· ≠ opening)), child, true⟩
    else if atoi (pos.drop 1) = 0 then none
    else some ⟨atoi (pos.drop 1), none, child, false⟩

/-- `parse_specifier`. -/
def parseSpecifier (string : CStr) : Option Specifier :=
  match string.getLast? with
  | none => none
  | some '}' => parseEnclosed string '{' true
  | some ']' => parseEnclosed string '[' false
  | some _ => some ⟨0, some string, false, false⟩

/-! ### What is accepted -/

def opening (child : Bool) : Char := if child then '{' else '['

def closing (child : Bool) : Char := if child then '}' else ']'

/-- The strings that are read as a specifier. What is between the brackets need not be complete: a
star or a number may be followed by anything, and what is before a number is ignored. -/
inductive Specifier.Written : Specifier → CStr → Prop
  | plain {name : CStr} (hname : name ≠ [])
      (hlast : ∀ child, name.getLast? ≠ some (closing child)) :
      Written ⟨0, some name, false, false⟩ name
  | one {name : CStr} {child : Bool} (hname : opening child ∉ name) :
      Written ⟨0, some name, child, false⟩ (name ++ [opening child, closing child])
  | all {name rest : CStr} {child : Bool} (hname : opening child ∉ name) :
      Written ⟨0, some name, child, true⟩ (name ++ opening child :: '*' :: rest ++ [closing child])
  | id {ignored rest : CStr} {child : Bool} (hignored : opening child ∉ ignored)
      (hrest : rest ≠ []) (hstar : rest.head? ≠ some '*')
      (hid : atoi (rest ++ [closing child]) ≠ 0) :
      Written ⟨atoi (rest ++ [closing child]), none, child, false⟩
        (ignored ++ opening child :: rest ++ [closing child])

lemma takeWhile_ne_append {c : Char} {t : CStr} (h : c ∉ t) (rest : CStr) :
    (t ++ c :: rest).takeWhile (· ≠ c) = t := by
  rw [List.takeWhile_append_of_pos, List.takeWhile_cons_of_neg (by simp), List.append_nil]
  intro a ha
  simp only [ne_eq, decide_not, Bool.not_eq_eq_eq_not, Bool.not_true, decide_eq_false_iff_not]
  rintro rfl
  exact h ha

lemma strchr_append {c : Char} {t : CStr} (h : c ∉ t) (rest : CStr) :
    strchr (t ++ c :: rest) c = some (c :: rest) := by
  rw [strchr, if_pos (by simp)]
  have hsplit := List.takeWhile_append_dropWhile (p := (· ≠ c)) (l := t ++ c :: rest)
  rw [takeWhile_ne_append h] at hsplit
  exact congrArg some (List.append_cancel_left hsplit)

lemma opening_ne_closing (child : Bool) : opening child ≠ closing child := by
  cases child <;> decide

/-- A string with a bracket or a brace at its end. -/
lemma parseSpecifier_concat_closing (string : CStr) (child : Bool) :
    parseSpecifier (string ++ [closing child])
      = parseEnclosed (string ++ [closing child]) (opening child) child := by
  cases child <;> simp [parseSpecifier, closing, opening]

lemma parseSpecifier_plain {name : CStr} (hname : name ≠ [])
    (hlast : ∀ child, name.getLast? ≠ some (closing child)) :
    parseSpecifier name = some ⟨0, some name, false, false⟩ := by
  have hbrace : name.getLast? ≠ some '}' := hlast true
  have hbracket : name.getLast? ≠ some ']' := hlast false
  rw [parseSpecifier]
  split
  · rename_i hnone
    exact absurd (List.getLast?_eq_none_iff.mp hnone) hname
  · rename_i heq
    exact absurd heq hbrace
  · rename_i heq
    exact absurd heq hbracket
  · rfl

/-- What is read of the parts before and after the first opening bracket. -/
lemma parseEnclosed_append {before : CStr} {child : Bool} (h : opening child ∉ before)
    (after : CStr) :
    parseEnclosed (before ++ opening child :: after) (opening child) child =
      if after.length = 1 then some ⟨0, some before, child, false⟩
      else if after.head? = some '*' then some ⟨0, some before, child, true⟩
      else if atoi after = 0 then none
      else some ⟨atoi after, none, child, false⟩ := by
  simp only [parseEnclosed, strchr_append h, List.length_cons, List.drop_one, List.tail_cons,
    takeWhile_ne_append h]
  by_cases hone : after.length = 1
  · rw [if_pos (by omega), if_pos hone]
    congr
    simp [hone]
  · rw [if_neg (by omega), if_neg hone]

lemma parseEnclosed_of_not_mem {string : CStr} {child : Bool} (h : opening child ∉ string) :
    parseEnclosed string (opening child) child = none := by
  rw [parseEnclosed, strchr, if_neg h]

/-- The specifiers that are accepted are those that are written in one of the four ways, and they
are read as that. -/
theorem parseSpecifier_eq_some_iff {string : CStr} {specifier : Specifier} :
    parseSpecifier string = some specifier ↔ specifier.Written string := by
  constructor
  · intro h
    by_cases hlast : ∃ child, string.getLast? = some (closing child)
    · obtain ⟨child, hlast⟩ := hlast
      obtain ⟨init, rfl⟩ := List.getLast?_eq_some_iff.mp hlast
      rw [parseSpecifier_concat_closing] at h
      by_cases hmem : opening child ∈ init ++ [closing child]
      · obtain ⟨before, after, hstring, hbefore⟩ := List.eq_append_cons_of_mem hmem
        rw [hstring, parseEnclosed_append hbefore] at h
        have hafter : ∃ rest, after = rest ++ [closing child] := by
          have hlast' := congrArg List.getLast? hstring
          cases after using List.reverseRecOn with
          | nil =>
            simp only [List.getLast?_append, List.getLast?_singleton, Option.some_or,
              Option.some.injEq] at hlast'
            exact absurd hlast'.symm (opening_ne_closing child)
          | append_singleton rest c =>
            rw [← List.cons_append, ← List.append_assoc, List.getLast?_concat,
              List.getLast?_concat, Option.some.injEq] at hlast'
            exact ⟨rest, by rw [hlast']⟩
        obtain ⟨rest, rfl⟩ := hafter
        rw [hstring]
        split_ifs at h with hone hstar hid
        · cases h
          have hrest : rest = [] := by simpa using hone
          rw [hrest]
          exact .one hbefore
        · cases h
          cases rest with
          | nil => exact absurd rfl hone
          | cons c rest =>
            obtain rfl : c = '*' := by simpa using hstar
            have hwritten : Specifier.Written ⟨0, some before, child, true⟩
                (before ++ opening child :: '*' :: rest ++ [closing child]) := .all hbefore
            rwa [List.append_assoc] at hwritten
        · cases h
          cases rest with
          | nil => exact absurd rfl hone
          | cons c rest =>
            have hwritten := Specifier.Written.id hbefore (List.cons_ne_nil c rest) hstar hid
            rwa [List.append_assoc] at hwritten
      · rw [parseEnclosed_of_not_mem hmem] at h
        cases h
    · rw [not_exists] at hlast
      have hne : string ≠ [] := by
        rintro rfl
        cases h
      rw [parseSpecifier_plain hne hlast, Option.some.injEq] at h
      exact h ▸ .plain hne hlast
  · intro h
    cases h with
    | plain hname hlast => exact parseSpecifier_plain hname hlast
    | @one name child hname =>
      have hassoc : name ++ [opening child, closing child]
          = (name ++ [opening child]) ++ [closing child] := by simp
      rw [hassoc, parseSpecifier_concat_closing, ← hassoc, parseEnclosed_append hname]
      rfl
    | @all name rest child hname =>
      rw [parseSpecifier_concat_closing, List.append_assoc, List.cons_append, List.cons_append,
        parseEnclosed_append hname]
      simp
    | @id ignored rest child hignored hrest hstar hid =>
      rw [parseSpecifier_concat_closing, List.append_assoc, List.cons_append,
        parseEnclosed_append hignored, if_neg (by simpa using hrest), if_neg, if_neg hid]
      cases rest with
      | nil => exact absurd rfl hrest
      | cons c rest => simpa using hstar

/-! ### Numbers -/

lemma signed_cons_of_isDigit {d : Char} (h : d.isDigit = true) (t : CStr) :
    Text.signed (d :: t) = (1, d :: t) := by
  rw [Text.signed.eq_def]
  split
  · rename_i heq
    cases heq
    cases h
  · rename_i heq
    cases heq
    cases h
  · rfl

/-- The decimal digits of a number are read as that number, if it has 32 bits. -/
lemma atoi_toDigits {n : ℕ} (h : n < 2 ^ 32) {c : Char} (hc : c.isDigit = false) (t : CStr) :
    atoi (Nat.toDigits 10 n ++ c :: t) = n := by
  have hdigit : ∀ d ∈ Nat.toDigits 10 n, d.isDigit = true := fun d hd =>
    Nat.isDigit_of_mem_toDigits (by decide) (by decide) hd
  have htake : (Nat.toDigits 10 n ++ c :: t).takeWhile Char.isDigit = Nat.toDigits 10 n := by
    rw [List.takeWhile_append_of_pos hdigit, List.takeWhile_cons_of_neg (by simp [hc]),
      List.append_nil]
  have hvalue : Nat.ofDigitChars 10 (Nat.toDigits 10 n) 0 = n := Nat.ofDigitChars_ten_toDigits
  obtain ⟨d, ds, hds⟩ := List.exists_cons_of_ne_nil (Nat.toDigits_ne_nil (b := 10) (n := n))
  have hd : d.isDigit = true := hdigit d (by simp [hds])
  have hlstrip : Text.lstrip (Nat.toDigits 10 n ++ c :: t) = Nat.toDigits 10 n ++ c :: t := by
    rw [hds, List.cons_append, Text.lstrip,
      List.dropWhile_cons_of_neg (by simp [Text.blank_of_isDigit hd])]
  have hsigned : Text.signed (Nat.toDigits 10 n ++ c :: t) = (1, Nat.toDigits 10 n ++ c :: t) := by
    rw [hds, List.cons_append, signed_cons_of_isDigit hd]
  simp only [atoi, hlstrip, hsigned, htake, hvalue]
  omega

/-- The number of an SA between brackets is read as that number. -/
lemma parseSpecifier_id {n : ℕ} (hpos : 0 < n) (h : n < 2 ^ 32) (child : Bool) :
    parseSpecifier (opening child :: Nat.toDigits 10 n ++ [closing child])
      = some ⟨n, none, child, false⟩ := by
  have hclosing : (closing child).isDigit = false := by cases child <;> decide
  have hatoi : atoi (Nat.toDigits 10 n ++ [closing child]) = n := atoi_toDigits h hclosing []
  have hlength : (Nat.toDigits 10 n ++ [closing child]).length ≠ 1 := by
    simp [Nat.toDigits_ne_nil]
  have hstar : (Nat.toDigits 10 n ++ [closing child]).head? ≠ some '*' := by
    intro heq
    rw [List.head?_append_of_ne_nil _ Nat.toDigits_ne_nil] at heq
    cases Nat.isDigit_of_mem_toDigits (by decide) (by decide) (List.mem_of_mem_head? heq)
  have hread := parseEnclosed_append (show opening child ∉ [] by simp)
    (Nat.toDigits 10 n ++ [closing child])
  rw [if_neg hlength, if_neg hstar, hatoi, if_neg (Nat.pos_iff_ne_zero.mp hpos)] at hread
  rw [parseSpecifier_concat_closing]
  exact hread

end SecuredApp
