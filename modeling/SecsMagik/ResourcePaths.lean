import Mathlib.Data.List.TakeWhile
import SecsMagik.ScopedNullifier
import SecsMagik.Utf8

/-! # Canonical resources

A scoped use names its resource by a path that is resolved first: empty segments and `.` are
dropped, and `..` takes the segment before it away.
-/
namespace ScopedNullifier

open RustStd

/-! ## Splitting and joining -/

theorem not_mem_of_mem_splitOn {c : Char} {cs segment : List Char} (h : segment ∈ cs.splitOn c) :
    c ∉ segment := by
  induction cs generalizing segment with
  | nil =>
    rw [List.splitOn_nil, List.mem_singleton] at h
    rw [h]
    exact List.not_mem_nil
  | cons d ds ih =>
    rw [List.splitOn_cons_eq_if_modifyHead] at h
    by_cases hd : d == c
    · rw [if_pos hd] at h
      rcases List.mem_cons.mp h with rfl | h
      · exact List.not_mem_nil
      · exact ih h
    · rw [if_neg hd] at h
      obtain ⟨first, rest, hsplit⟩ := List.exists_cons_of_ne_nil (List.splitOn_ne_nil c ds)
      rw [hsplit, List.modifyHead_cons] at h
      rcases List.mem_cons.mp h with rfl | h
      · have hfirst : c ∉ first := ih (hsplit ▸ List.mem_cons_self)
        have hne : c ≠ d := fun heq => hd (by simp [heq])
        simp [hne, hfirst]
      · exact ih (hsplit ▸ List.mem_cons_of_mem _ h)

theorem not_mem_of_mem_split {s segment : String} {c : Char} (h : segment ∈ split s c) :
    c ∉ segment.toList := by
  obtain ⟨cs, hcs, rfl⟩ := List.mem_map.mp h
  rw [String.toList_ofList]
  exact not_mem_of_mem_splitOn hcs

theorem split_cons_self (c : Char) (s : String) :
    split (String.ofList (c :: s.toList)) c = "" :: split s c := by
  simp [split, List.splitOn_cons_eq_if_modifyHead]

theorem toList_join_slash (parts : List String) :
    (join parts "/").toList = ['/'].intercalate (parts.map String.toList) := by
  rw [join, String.toList_intercalate]
  rfl

theorem split_join {parts : List String} (hne : parts ≠ [])
    (hclean : ∀ p ∈ parts, '/' ∉ p.toList) : split (join parts "/") '/' = parts := by
  rw [split, chars_eq, toList_join_slash, List.splitOn_intercalate]
  · simp
  · intro cs hcs
    obtain ⟨p, hp, rfl⟩ := List.mem_map.mp hcs
    exact hclean p hp
  · simpa using hne

/-! ## Resolved paths -/

/-- One segment, read from the right: how many segments `..` still takes away, and what remains. -/
def survive (part : String) (after : ℕ × List String) : ℕ × List String :=
  if part = "" ∨ part = "." then after
  else if part = ".." then (after.1 + 1, after.2)
  else if after.1 = 0 then (0, part :: after.2)
  else (after.1 - 1, after.2)

/-- The segments that no later `..` takes away. -/
def remaining (segments : List String) : List String := (segments.foldr survive (0, [])).2

/-- A stack of segments loses what the rest of the path takes away and gains what remains of it. -/
theorem foldl_resolve (segments stack : List String) :
    segments.foldl (fun parts part =>
      if part = "" ∨ part = "." then parts
      else if part = ".." then parts.dropLast
      else parts ++ [part]) stack =
      stack.take (stack.length - (segments.foldr survive (0, [])).1) ++ remaining segments := by
  induction segments generalizing stack with
  | nil => simp [remaining]
  | cons part rest ih =>
    rw [List.foldl_cons, ih]
    unfold remaining
    rw [List.foldr_cons]
    generalize rest.foldr survive (0, []) = after
    unfold survive
    by_cases hskip : part = "" ∨ part = "."
    · simp only [if_pos hskip]
    · by_cases hup : part = ".."
      · simp only [if_neg hskip, if_pos hup, List.length_dropLast]
        rw [List.dropLast_eq_take, List.take_take]
        congr 2
        omega
      · simp only [if_neg hskip, if_neg hup, List.length_append, List.length_singleton]
        by_cases hzero : after.1 = 0
        · rw [if_pos hzero, hzero, Nat.sub_zero, Nat.sub_zero, List.take_length,
            List.take_of_length_le (by simp)]
          simp
        · rw [if_neg hzero, List.take_append_of_le_length (by omega)]
          congr 2
          omega

theorem resolveSegments_eq (segments : List String) :
    resolveSegments segments = remaining segments := by
  rw [resolveSegments, foldl_resolve]
  simp

def IsPlain (segment : String) : Prop := segment ≠ "" ∧ segment ≠ "." ∧ segment ≠ ".."

theorem mem_remaining {segments : List String} {p : String} (h : p ∈ remaining segments) :
    p ∈ segments ∧ IsPlain p := by
  induction segments with
  | nil => cases h
  | cons part rest ih =>
    have hrest : p ∈ remaining rest → p ∈ part :: rest ∧ IsPlain p :=
      fun hp => ⟨List.mem_cons_of_mem _ (ih hp).1, (ih hp).2⟩
    rw [remaining, List.foldr_cons, survive] at h
    by_cases hskip : part = "" ∨ part = "."
    · rw [if_pos hskip] at h
      exact hrest h
    · rw [if_neg hskip] at h
      by_cases hup : part = ".."
      · rw [if_pos hup] at h
        exact hrest h
      · rw [if_neg hup] at h
        split at h
        · rcases List.mem_cons.mp h with rfl | h
          · rw [not_or] at hskip
            exact ⟨List.mem_cons_self, hskip.1, hskip.2, hup⟩
          · exact hrest h
        · exact hrest h

theorem remaining_of_plain {segments : List String} (h : ∀ p ∈ segments, IsPlain p) :
    remaining segments = segments := by
  have hall : segments.foldr survive (0, []) = (0, segments) := by
    induction segments with
    | nil => rfl
    | cons part rest ih =>
      obtain ⟨⟨hempty, hdot, hup⟩, hrest⟩ := List.forall_mem_cons.mp h
      rw [List.foldr_cons, ih hrest, survive]
      simp [hempty, hdot, hup]
  rw [remaining, hall]

theorem remaining_cons_empty (segments : List String) :
    remaining ("" :: segments) = remaining segments := by
  simp [remaining, survive]

/-! ## Normal forms -/

theorem trim_eq_empty_iff {s : String} : trim s = "" ↔ ∀ c ∈ s.toList, isWhitespace c := by
  have hempty : trim s = "" ↔ trimChars s.toList = [] := by
    rw [trim, chars_eq, ← String.toList_inj, String.toList_ofList]
    rfl
  rw [hempty, trimChars, List.reverse_eq_nil_iff, List.dropWhile_eq_nil_iff]
  simp only [List.mem_reverse]
  constructor
  · intro h
    -- a first character that is not white space would be left in place
    by_contra hnot
    have hne : s.toList.dropWhile isWhitespace ≠ [] := by
      rw [Ne, List.dropWhile_eq_nil_iff]
      exact hnot
    have hhead := List.head_dropWhile_not isWhitespace hne
    rw [h _ (List.head_mem hne)] at hhead
    cases hhead
  · intro h c hc
    exact h c (List.dropWhile_sublist _ |>.subset hc)

def pathOf (resource : String) : String := (stripPrefix resource "file://").getD ""

theorem canonicalResourceId_eq_ok {resource canonical : String} :
    canonicalResourceId resource = .ok canonical ↔
      resource = "file://" ++ pathOf resource ∧ trim (pathOf resource) ≠ "" ∧
        canonical = (if startsWith (pathOf resource) "/" then "file:///" else "file://") ++
          join (remaining (split (pathOf resource) '/')) "/" := by
  unfold canonicalResourceId
  cases hpath : stripPrefix resource "file://" with
  | none =>
    have hno : resource ≠ "file://" ++ pathOf resource := by
      intro heq
      rw [heq, stripPrefix_append] at hpath
      cases hpath
    simp [hno]
  | some rest =>
    have hrest : pathOf resource = rest := by rw [pathOf, hpath, Option.getD_some]
    have heq : resource = "file://" ++ rest := stripPrefix_eq_some hpath
    simp only [hrest, ← heq, true_and]
    by_cases hblank : trim rest = ""
    · simp [hblank]
    · simp only [hblank, if_false, ne_eq, not_false_eq_true, true_and, Except.ok.injEq,
        resolveSegments_eq]
      rw [eq_comm]
      by_cases habsolute : startsWith rest "/" <;> simp [habsolute]

section NormalForms

variable {parts : List String}

theorem remaining_split_join (hplain : ∀ p ∈ parts, IsPlain p)
    (hslash : ∀ p ∈ parts, '/' ∉ p.toList) : remaining (split (join parts "/") '/') = parts := by
  by_cases hne : parts = []
  · subst hne
    rfl
  · rw [split_join hne hslash, remaining_of_plain hplain]

theorem not_startsWith_join (hplain : ∀ p ∈ parts, IsPlain p)
    (hslash : ∀ p ∈ parts, '/' ∉ p.toList) : startsWith (join parts "/") "/" = false := by
  cases parts with
  | nil => rfl
  | cons p rest =>
    have hempty : p.toList ≠ [] := by
      intro hp
      exact (hplain p List.mem_cons_self).1 (String.toList_eq_nil_iff.mp hp)
    obtain ⟨c, cs, hcs⟩ := List.exists_cons_of_ne_nil hempty
    have hc : '/' ≠ c := by
      intro heq
      exact hslash p List.mem_cons_self (by rw [hcs, heq]; exact List.mem_cons_self)
    obtain ⟨tail, htail⟩ : ∃ tail, (join (p :: rest) "/").toList = c :: tail := by
      rw [toList_join_slash]
      cases rest with
      | nil => exact ⟨cs, by simp [hcs]⟩
      | cons q rest => exact ⟨_, by simp [List.intercalate, hcs]; rfl⟩
    rw [startsWith, chars_eq, chars_eq, htail]
    simp [List.isPrefixOf, hc]

theorem trim_join_ne_empty_iff :
    trim (join parts "/") ≠ "" ↔ (∃ p ∈ parts, trim p ≠ "") ∨ 2 ≤ parts.length := by
  cases parts with
  | nil => simp [join, trim, trimChars]
  | cons p rest =>
    cases rest with
    | nil => simp [join]
    | cons q rest =>
      have hslash : trim (join (p :: q :: rest) "/") ≠ "" := by
        intro hblank
        rw [trim_eq_empty_iff, toList_join_slash] at hblank
        have hno := hblank '/' (by simp [List.intercalate])
        revert hno
        decide
      simp [hslash]

end NormalForms

/-- A resource in its canonical form is canonical again exactly if its path is absolute or is not
blank once it is resolved. -/
theorem canonical_again_iff {resource canonical : String}
    (h : canonicalResourceId resource = .ok canonical) :
    canonicalResourceId canonical = .ok canonical ↔
      startsWith (pathOf resource) "/" ∨
        (∃ p ∈ remaining (split (pathOf resource) '/'), trim p ≠ "") ∨
        2 ≤ (remaining (split (pathOf resource) '/')).length := by
  obtain ⟨-, -, hcanonical⟩ := canonicalResourceId_eq_ok.mp h
  have hplain : ∀ p ∈ remaining (split (pathOf resource) '/'), IsPlain p :=
    fun p hp => (mem_remaining hp).2
  have hslash : ∀ p ∈ remaining (split (pathOf resource) '/'), '/' ∉ p.toList :=
    fun p hp => not_mem_of_mem_split (mem_remaining hp).1
  generalize remaining (split (pathOf resource) '/') = parts at *
  by_cases habsolute : startsWith (pathOf resource) "/"
  · rw [if_pos habsolute] at hcanonical
    have hform : canonical = "file://" ++ ("/" ++ join parts "/") := by
      rw [hcanonical, ← String.append_assoc]
      rfl
    have hpath : pathOf canonical = "/" ++ join parts "/" := by
      rw [pathOf, hform, stripPrefix_append, Option.getD_some]
    have hsplit : split ("/" ++ join parts "/") '/' = "" :: split (join parts "/") '/' := by
      rw [← split_cons_self]
      congr 1
      rw [← String.toList_inj]
      simp
    have hblank : trim ("/" ++ join parts "/") ≠ "" := by
      intro hblank
      have hno := trim_eq_empty_iff.mp hblank '/' (by simp)
      revert hno
      decide
    refine iff_of_true (canonicalResourceId_eq_ok.mpr ?_) (.inl habsolute)
    rw [hpath, hsplit, remaining_cons_empty, remaining_split_join hplain hslash,
      if_pos (startsWith_append _ _)]
    exact ⟨hform, hblank, hcanonical⟩
  · rw [if_neg habsolute] at hcanonical
    have hpath : pathOf canonical = join parts "/" := by
      rw [pathOf, hcanonical, stripPrefix_append, Option.getD_some]
    rw [canonicalResourceId_eq_ok, hpath, trim_join_ne_empty_iff,
      remaining_split_join hplain hslash, not_startsWith_join hplain hslash]
    simp [hcanonical, habsolute]

namespace Sample

theorem plain_path_canonical_again :
    canonicalResourceId "file://a/../b" = .ok "file://b" ∧
      canonicalResourceId "file://b" = .ok "file://b" := by
  have h : canonicalResourceId "file://a/../b" = .ok "file://b" := by decide
  exact ⟨h, (canonical_again_iff h).mpr (by decide)⟩

/-- A relative path that resolves to nothing leaves the bare scheme, which is no resource. -/
theorem empty_path_not_canonical_again :
    canonicalResourceId "file://a/.." = .ok "file://" ∧
      canonicalResourceId "file://" = .error .missingScopedNullifier := by
  decide

end Sample

end ScopedNullifier
