import SecsMagik.GrantContract
import SecsMagik.WorkPolicies

/-! # The two readers of a validity

The contract crate and the server each have a type for the times at which a grant is good, with a
reader of its own. Both derive the reading of the record; the server refuses while it reads what the
crate takes as a validity that never holds.
-/
namespace ValidityCodecs

open RustStd
open CanonicalJson (Json)
open GrantContract (Validity safeMax)
open WorkPolicies

/-! ## The derived readers -/

/-- `rename_all = "snake_case"` on a variant. -/
def snakeCase (variant : String) : String :=
  String.ofList ((chars variant).mapIdx fun i ch =>
    if 0 < i ∧ ch.isUpper then ['_', ch.toLower] else [ch.toLower]).flatten

/-- The fields of a variant, with `deny_unknown_fields`: an object has each of them once and nothing
else, an array has them in the order of their declaration. -/
def readFields (names : List String) : Json → Option (List Json)
  | .object members =>
    if (members.map Prod.fst).isPerm names then names.mapM fun name => members.lookup name else none
  | .array items => if items.length = names.length then some items else none
  | _ => none

/-- What both crates call `Wire`. -/
inductive Wire where
  | dated (schema : String) (notBefore notAfter : UInt64)
  | untilRevoked (schema : String) (notBefore : UInt64)

namespace Wire

section Derived

-- the names of the two variants on the wire
variable (datedName untilRevokedName : String)

def readVariant (mode : String) (content : Json) : Option Wire :=
  if mode = datedName then
    match readFields ["schema", "not_before", "not_after"] content with
    | some [schema, notBefore, notAfter] => do
      return .dated (← schema.asStr) (← notBefore.asU64) (← notAfter.asU64)
    | _ => none
  else if mode = untilRevokedName then
    match readFields ["schema", "not_before"] content with
    | some [schema, notBefore] => do return .untilRevoked (← schema.asStr) (← notBefore.asU64)
    | _ => none
  else none

/-- `#[derive(Deserialize)]` with `tag = "mode"`: the tag is a member of the object, in any place
but once, or the first item of the array. -/
def deserialize : Json → Option Wire
  | .object members =>
    match members.filter fun m => m.1 = "mode" with
    | [(_, .string mode)] => readVariant datedName untilRevokedName mode
        (.object (members.filter fun m => m.1 ≠ "mode"))
    | _ => none
  | .array (.string mode :: items) => readVariant datedName untilRevokedName mode (.array items)
  | _ => none

end Derived

def schema : Wire → String
  | dated schema _ _ | untilRevoked schema _ => schema

end Wire

def validitySchema : String := "castalia.grant-validity.v1"

/-- In the contract crate the variants are renamed by rule. -/
def Validity.deserialize (value : Json) : Option Validity := do
  let wire ← Wire.deserialize (snakeCase "Dated") (snakeCase "UntilRevoked") value
  let read := match wire with
    | .dated _ notBefore notAfter => Validity.dated notBefore notAfter
    | .untilRevoked _ notBefore => Validity.untilRevoked notBefore
  if wire.schema ≠ validitySchema then none else some read

/-- In the server each variant is renamed by hand, and what the constructor refuses is an error. -/
def GrantValidity.deserialize (value : Json) : Option GrantValidity := do
  let wire ← Wire.deserialize "dated" "until_revoked" value
  let result := match wire with
    | .dated _ notBefore notAfter => GrantValidity.dated notBefore notAfter
    | .untilRevoked _ notBefore => GrantValidity.untilRevoked notBefore
  if wire.schema ≠ validitySchema then none else result.toOption

/-! ## What the server takes -/

/-- The server's value for a validity of the contract crate. -/
def ofValidity : Validity → Except String GrantValidity
  | .dated notBefore notAfter => GrantValidity.dated notBefore notAfter
  | .untilRevoked notBefore => GrantValidity.untilRevoked notBefore

theorem wire_names : snakeCase "Dated" = "dated" ∧ snakeCase "UntilRevoked" = "until_revoked" := by
  decide +kernel

theorem deserialize_eq {value : Json} {validity : Validity}
    (h : Validity.deserialize value = some validity) :
    GrantValidity.deserialize value = (ofValidity validity).toOption := by
  unfold Validity.deserialize at h
  rw [wire_names.1, wire_names.2] at h
  unfold GrantValidity.deserialize
  cases hwire : Wire.deserialize "dated" "until_revoked" value with
  | none => simp [hwire] at h
  | some wire =>
    simp only [hwire, Option.bind_eq_bind, Option.bind_some] at h ⊢
    split at h
    · cases h
    · next hschema =>
      rw [if_neg hschema, ← Option.some.inj h]
      cases wire <;> rfl

theorem toNat_maxSafe_eq : maxSafe.toNat = safeMax := rfl

/-- The server refuses the validities that never hold; its value of any other one holds at the
same times. -/
theorem ofValidity_cases (validity : Validity) :
    (∃ e, ofValidity validity = .error e ∧ ∀ now, ¬ validity.contains now) ∨
      ∃ server, ofValidity validity = .ok server ∧
        ∀ now, server.contains now ↔ validity.contains now := by
  cases validity with
  | dated notBefore notAfter =>
    by_cases h : notBefore ≥ notAfter ∨ notAfter > maxSafe
    · refine .inl ⟨_, dif_pos h, fun now => ?_⟩
      simp only [ge_iff_le, gt_iff_lt, UInt64.lt_iff_toNat_lt, UInt64.le_iff_toNat_le,
        toNat_maxSafe_eq] at h
      simp only [Validity.contains, Bool.and_eq_true, decide_eq_true_eq, UInt64.lt_iff_toNat_lt,
        UInt64.le_iff_toNat_le]
      omega
    · refine .inr ⟨_, dif_neg h, fun now => ?_⟩
      rw [not_or, gt_iff_lt, UInt64.not_lt, UInt64.le_iff_toNat_le, toNat_maxSafe_eq] at h
      simp only [GrantValidity.contains_iff, Validity.contains, Option.mem_some_iff, forall_eq',
        Bool.and_eq_true, decide_eq_true_eq, UInt64.lt_iff_toNat_lt, UInt64.le_iff_toNat_le,
        toNat_maxSafe_eq]
      omega
  | untilRevoked notBefore =>
    by_cases h : notBefore > maxSafe
    · refine .inl ⟨_, dif_pos h, fun now => ?_⟩
      rw [gt_iff_lt, UInt64.lt_iff_toNat_lt, toNat_maxSafe_eq] at h
      simp only [Validity.contains, Bool.and_eq_true, decide_eq_true_eq, UInt64.le_iff_toNat_le]
      omega
    · refine .inr ⟨_, dif_neg h, fun now => ?_⟩
      simp [GrantValidity.contains_iff, Validity.contains, UInt64.le_iff_toNat_le,
        toNat_maxSafe_eq, and_comm]

/-! ## Times of a server value -/

variable {child parent validity : GrantValidity} {now lifetime : UInt64}

theorem contains_notBefore (validity : GrantValidity) : validity.contains validity.notBefore :=
  GrantValidity.contains_iff.mpr ⟨validity.notBefore_le, UInt64.le_refl _,
    fun stop hstop => (validity.ordered stop hstop).1⟩

/-- Without an end the last time is the greatest the clock may show; with one, the time before. -/
theorem containedBy_iff :
    child.containedBy parent ↔ ∀ now, child.contains now → parent.contains now := by
  simp only [GrantValidity.containedBy, Bool.and_eq_true, decide_eq_true_eq]
  constructor
  · rintro ⟨hbefore, hstop⟩ now hnow
    obtain ⟨hsafe, hstarted, hrunning⟩ := GrantValidity.contains_iff.mp hnow
    refine GrantValidity.contains_iff.mpr ⟨hsafe, UInt64.le_trans hbefore hstarted, ?_⟩
    intro stop hparent
    cases hchild : child.notAfter with
    | none => simp [hchild, Option.mem_def.mp hparent] at hstop
    | some childStop =>
      simp only [hchild, Option.mem_def.mp hparent, decide_eq_true_eq] at hstop
      exact UInt64.lt_of_lt_of_le (hrunning _ hchild) hstop
  · intro h
    have hfirst := GrantValidity.contains_iff.mp (h _ (contains_notBefore child))
    refine ⟨hfirst.2.1, ?_⟩
    cases hparent : parent.notAfter with
    | none => cases child.notAfter <;> rfl
    | some stop =>
      obtain ⟨-, hstop⟩ := parent.ordered stop hparent
      cases hchild : child.notAfter with
      | none =>
        -- the child still holds at the greatest time
        have hlast : child.contains maxSafe :=
          GrantValidity.contains_iff.mpr ⟨UInt64.le_refl _, child.notBefore_le, by simp [hchild]⟩
        have hlt := (GrantValidity.contains_iff.mp (h _ hlast)).2.2 stop hparent
        exact absurd hstop (UInt64.not_le.mpr hlt)
      | some childStop =>
        rw [decide_eq_true_eq, ← UInt64.not_lt]
        intro hlt
        -- the parent's end would be a time of the child
        have hat : child.contains stop := by
          refine GrantValidity.contains_iff.mpr
            ⟨hstop, UInt64.le_of_lt (hfirst.2.2 stop hparent), fun s hs => ?_⟩
          rwa [Option.mem_unique hs hchild]
        exact UInt64.lt_irrefl _ ((GrantValidity.contains_iff.mp (h _ hat)).2.2 stop hparent)

theorem credentialDeadline_bounds (hnow : validity.contains now)
    (hlifetime : 1 ≤ lifetime.toNat ∧ lifetime.toNat ≤ 3600) {d : UInt64}
    (h : validity.credentialDeadline now lifetime = .ok d) :
    now < d ∧ d.toNat ≤ now.toNat + lifetime.toNat ∧
      ∀ t, now ≤ t → t < d → validity.contains t := by
  obtain ⟨-, hstarted, hrunning⟩ := GrantValidity.contains_iff.mp hnow
  obtain ⟨hd, hsafe⟩ := (credentialDeadline_eq_ok hnow hlifetime).mp h
  obtain ⟨hle, hstop⟩ := GrantValidity.le_deadline_iff.mp hd.le
  have hlt : now.toNat + 1 ≤ validity.deadline now lifetime :=
    GrantValidity.le_deadline_iff.mpr ⟨by omega, fun stop hstop =>
      UInt64.lt_iff_toNat_lt.mp (hrunning stop hstop)⟩
  refine ⟨UInt64.lt_iff_toNat_lt.mpr (hd ▸ hlt), hle, fun t hfrom hto => ?_⟩
  exact GrantValidity.contains_iff.mpr
    ⟨UInt64.le_trans (UInt64.le_of_lt hto) hsafe, UInt64.le_trans hstarted hfrom,
      fun stop hmem => UInt64.lt_of_lt_of_le hto (UInt64.le_iff_toNat_le.mpr (hstop stop hmem))⟩

/-- The two implementations of a validity agree: on every record that the contract crate reads, on
containment, and on the deadline that the server derives from a validity. -/
theorem validity_implementations_agree :
    (∀ value validity, Validity.deserialize value = some validity →
      ((GrantValidity.deserialize value).isSome ↔ ∃ now, validity.contains now) ∧
      ∀ server, GrantValidity.deserialize value = some server →
        ∀ now, server.contains now = validity.contains now) ∧
    (∀ child parent : GrantValidity,
      child.containedBy parent ↔ ∀ now, child.contains now → parent.contains now) ∧
    ∀ (validity : GrantValidity) (now lifetime : UInt64),
      validity.contains now → 1 ≤ lifetime → lifetime ≤ 3600 →
      now.toNat + lifetime.toNat < 2 ^ 64 ∧
      ∀ d, validity.credentialDeadline now lifetime = .ok d →
        now < d ∧ d.toNat ≤ now.toNat + lifetime.toNat ∧
          ∀ t, now ≤ t → t < d → validity.contains t := by
  refine ⟨fun value validity h => ?_, fun _ _ => containedBy_iff, ?_⟩
  · rw [deserialize_eq h]
    rcases ofValidity_cases validity with ⟨e, herror, hnever⟩ | ⟨server, hok, hsame⟩
    · rw [herror]
      exact ⟨iff_of_false Bool.false_ne_true (not_exists.mpr hnever), nofun⟩
    · rw [hok]
      refine ⟨iff_of_true rfl ⟨_, (hsame _).mp (contains_notBefore server)⟩, ?_⟩
      rintro _ ⟨⟩ now
      exact Bool.eq_iff_iff.mpr (hsame now)
  · intro validity now lifetime hnow hpos hlifetime
    have hlifetime : 1 ≤ lifetime.toNat ∧ lifetime.toNat ≤ 3600 :=
      ⟨UInt64.le_iff_toNat_le.mp hpos, UInt64.le_iff_toNat_le.mp hlifetime⟩
    exact ⟨sum_lt_of_contains hnow hlifetime.2, fun d => credentialDeadline_bounds hnow hlifetime⟩

namespace Sample

/-- A record by name, with the tag in the middle. -/
def named : Json := .object [("schema", .string validitySchema), ("not_before", .int 5),
  ("mode", .string "dated"), ("not_after", .int 7)]

/-- A record in order. -/
def ordered : Json := .array [.string "until_revoked", .string validitySchema, .int 5]

end Sample

open Sample

theorem validity_implementations_agree_samples :
    (GrantValidity.deserialize named).isSome ∧ (GrantValidity.deserialize ordered).isSome := by
  have hnamed : Validity.deserialize named = some (.dated 5 7) := by decide +kernel
  have hordered : Validity.deserialize ordered = some (.untilRevoked 5) := by decide +kernel
  exact ⟨(validity_implementations_agree.1 _ _ hnamed).1.mpr ⟨5, by decide⟩,
    (validity_implementations_agree.1 _ _ hordered).1.mpr ⟨5, by decide⟩⟩

end ValidityCodecs
