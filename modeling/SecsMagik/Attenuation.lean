import SecsMagik.GrantUsability

/-! # Attenuation of effects

A credential's permission narrows one whole permission of its grant. What the narrower permission
allows, the wider one allows too, as far as the provider's lookups answer: it looks further roots
up, and one of those lookups may fail.
-/
namespace Attenuation

open RustStd WireCodec CanonicalJson
open ExternalCrates (Crates Strict)
open GrantContract ResourceSelectors
open ScopedGrants (Permission)

/-- A lookup of one of the roots for the resource fails with this error. -/
def RootFails (snapshot : ResourceSnapshot) (service : String) (resource : ResourceRef)
    (relation : String) (roots : List ResourceRef) (e : String) : Prop :=
  ∃ root ∈ roots, snapshot.existsRef service root = .error e ∨
    snapshot.isDescendant service relation resource root = .error e

def SelectionFails (snapshot : ResourceSnapshot) (service : String) (resource : ResourceRef)
    (selection : Selection) (e : String) : Prop :=
  ∃ h, selection.hierarchy? = some h ∧
    RootFails snapshot service resource h.relation h.roots e

/-- A lookup fails that a resource of the plan needs under the selection for its role. -/
def RuleFails (snapshot : ResourceSnapshot) (service : String) (effects : List ResolvedRole)
    (rule : EffectRule) (e : String) : Prop :=
  ∃ effect ∈ effects, ∃ s, rule.roles.find? (·.role = effect.role) = some s ∧
    ∃ resource ∈ effect.resources,
      SelectionFails snapshot service resource s.selector.selection e

/-- A check that passes, unless a lookup fails. -/
def Kept (fails : String → Prop) (check : Result Bool) : Prop :=
  check = .ok true ∨ ∃ e, check = .error e ∧ fails e

section

variable {contract : EffectContract} {rule : EffectRule}

section

variable {snapshot : ResourceSnapshot} {service : String} {resource : ResourceRef}

theorem Kept.mono {fails fails' : String → Prop} {check : Result Bool}
    (himp : ∀ e, fails e → fails' e) (h : Kept fails check) : Kept fails' check :=
  h.imp_right fun ⟨e, he, hfails⟩ => ⟨e, he, himp e hfails⟩

theorem Kept.bind {fails : String → Prop} {x : Result Bool} {f : Bool → Result Bool}
    (hfails : ∀ e, x = .error e → fails e) (hkept : ∀ b, x = .ok b → Kept fails (f b)) :
    Kept fails (x >>= f) := by
  cases x with
  | error e => exact .inr ⟨e, rfl, hfails e rfl⟩
  | ok b => exact hkept b rfl

/-! ## Hierarchies -/

/-- A root through which a hierarchy reaches a resource. -/
def Reaches (snapshot : ResourceSnapshot) (service : String) (h : Hierarchy)
    (resource root : ResourceRef) : Prop :=
  snapshot.existsRef service root = .ok true ∧
    if resource = root then h.includeSelf = true
    else snapshot.isDescendant service h.relation resource root = .ok true

theorem reaches_of_permitsFrom {h : Hierarchy} {roots : List ResourceRef}
    (hpermits : Hierarchy.permitsFrom service h resource snapshot roots = .ok true) :
    ∃ root ∈ roots, Reaches snapshot service h resource root := by
  induction roots with
  | nil => cases hpermits
  | cons root rest ih =>
    rw [Hierarchy.permitsFrom, bind_eq_ok] at hpermits
    obtain ⟨present, hpresent, hpermits⟩ := hpermits
    have hrest : Hierarchy.permitsFrom service h resource snapshot rest = .ok true →
        ∃ root' ∈ root :: rest, Reaches snapshot service h resource root' := by
      intro hrest
      obtain ⟨root', hmem, hreaches⟩ := ih hrest
      exact ⟨root', List.mem_cons_of_mem _ hmem, hreaches⟩
    cases present with
    | false => exact hrest hpermits
    | true =>
      by_cases heq : resource = root
      · by_cases hself : h.includeSelf = true
        · exact ⟨root, List.mem_cons_self, hpresent, by rwa [if_pos heq]⟩
        · simp only [heq, if_true, if_neg hself] at hpermits
          exact hrest (heq ▸ hpermits)
      · simp only [if_true, if_neg heq] at hpermits
        obtain ⟨below, hbelow, hpermits⟩ := bind_eq_ok.mp hpermits
        cases below with
        | false => exact hrest hpermits
        | true => exact ⟨root, List.mem_cons_self, hpresent, by rwa [if_neg heq]⟩

theorem kept_permitsFrom {h : Hierarchy} {roots : List ResourceRef}
    (hreaches : ∃ root ∈ roots, Reaches snapshot service h resource root) :
    Kept (RootFails snapshot service resource h.relation roots)
      (Hierarchy.permitsFrom service h resource snapshot roots) := by
  induction roots with
  | nil =>
    obtain ⟨root, hmem, -⟩ := hreaches
    cases hmem
  | cons root rest ih =>
    have hrest : ¬ Reaches snapshot service h resource root →
        Kept (RootFails snapshot service resource h.relation (root :: rest))
          (Hierarchy.permitsFrom service h resource snapshot rest) := by
      intro hnot
      obtain ⟨root', hmem, hreaches⟩ := hreaches
      rcases List.mem_cons.mp hmem with rfl | hmem
      · exact absurd hreaches hnot
      · refine (ih ⟨root', hmem, hreaches⟩).mono ?_
        rintro e ⟨root', hmem, hfails⟩
        exact ⟨root', List.mem_cons_of_mem _ hmem, hfails⟩
    rw [Hierarchy.permitsFrom]
    refine Kept.bind (fun e he => ⟨root, List.mem_cons_self, .inl he⟩) fun present hpresent => ?_
    cases present with
    | false =>
      apply hrest
      intro hreaches
      cases hpresent.symm.trans hreaches.1
    | true =>
      by_cases heq : resource = root
      · by_cases hself : h.includeSelf = true
        · left
          simp [heq, hself]
        · simp only [if_true, if_pos heq, if_neg hself]
          apply hrest
          intro hreaches
          exact hself (by simpa [heq] using hreaches.2)
      · simp only [if_true, if_neg heq]
        refine Kept.bind (fun e he => ⟨root, List.mem_cons_self, .inr he⟩) fun below hbelow => ?_
        cases below with
        | true => exact .inl rfl
        | false =>
          apply hrest
          intro hreaches
          have htrue := hreaches.2
          rw [if_neg heq, hbelow] at htrue
          cases htrue

theorem kept_hierarchy {child parent : Hierarchy} (hwithin : child.within parent)
    (hpermits : child.permits service resource snapshot = .ok true) :
    Kept (RootFails snapshot service resource parent.relation parent.roots)
      (parent.permits service resource snapshot) := by
  simp only [Hierarchy.within, decide_eq_true_eq, List.all_eq_true] at hwithin
  obtain ⟨hrelation, hself, hroots⟩ := hwithin
  rw [Hierarchy.permits, bind_eq_ok] at hpermits
  obtain ⟨supported, hsupported, hpermits⟩ := hpermits
  obtain ⟨hreject, hfrom⟩ := check_bind_eq_ok.mp hpermits
  obtain ⟨root, hmem, hpresent, hreaches⟩ := reaches_of_permitsFrom hfrom
  have hparent : parent.permits service resource snapshot =
      Hierarchy.permitsFrom service parent resource snapshot parent.roots := by
    obtain rfl : supported = true := by simpa [rejectIf_eq_ok] using hreject
    rw [Hierarchy.permits, ← hrelation, hsupported]
    rfl
  rw [hparent]
  refine kept_permitsFrom ⟨root, hroots root hmem, hpresent, ?_⟩
  by_cases heq : resource = root
  · rw [if_pos heq] at hreaches ⊢
    rcases hself with hself | hself
    · rw [hreaches] at hself
      cases hself
    · exact hself
  · rw [if_neg heq] at hreaches ⊢
    rw [← hrelation]
    exact hreaches

/-! ## Selectors -/

/-- A narrower selection that permits a resource: the wider one covers its objects, and its
hierarchy, if it has one, contains the narrower one's. -/
theorem permits_of_within {child parent : Selection} (hwithin : child.within parent)
    (hpermits : child.permits service resource snapshot = .ok true) :
    parent.permits service resource snapshot =
        parent.hierarchy?.elim (.ok true) (·.permits service resource snapshot) ∧
      ∀ h, parent.hierarchy? = some h →
        ∃ g : Hierarchy, g.within h ∧ g.permits service resource snapshot = .ok true := by
  obtain ⟨hrefs, hhierarchy⟩ := Selection.within_iff.mp hwithin
  rw [Selection.permits_eq] at hpermits ⊢
  by_cases hall : child.refs?.all (resource ∈ ·)
  · rw [if_pos hall] at hpermits
    constructor
    · rw [if_pos]
      rw [Option.all_eq_true]
      intro parentRefs hparent
      obtain ⟨refs, hchild, hsub⟩ := hrefs parentRefs hparent
      rw [hchild, Option.all_some, decide_eq_true_eq] at hall
      exact decide_eq_true (hsub resource hall)
    · intro h hparent
      obtain ⟨g, hg, hgh⟩ := hhierarchy h hparent
      rw [hg] at hpermits
      exact ⟨g, hgh, hpermits⟩
  · rw [if_neg hall] at hpermits
    cases hpermits

theorem kept_selection {child parent : Selection} (hwithin : child.within parent)
    (hpermits : child.permits service resource snapshot = .ok true) :
    Kept (SelectionFails snapshot service resource parent)
      (parent.permits service resource snapshot) := by
  obtain ⟨hparent, hhierarchy⟩ := permits_of_within hwithin hpermits
  rw [hparent]
  cases hguard : parent.hierarchy? with
  | none => exact .inl rfl
  | some h =>
    obtain ⟨g, hgh, hg⟩ := hhierarchy h hguard
    exact (kept_hierarchy hgh hg).mono fun e hfails => ⟨h, hguard, hfails⟩

theorem selector_permits_eq_true {s : ResourceSelector} :
    s.permits service resource snapshot = .ok true ↔
      (s.validate = .ok () ∧ text service = .ok () ∧ resource.validate = .ok ()) ∧
        s.service = service ∧ resource.kind ∈ s.kinds ∧
        snapshot.existsRef service resource = .ok true ∧
        s.selection.permits service resource snapshot = .ok true := by
  rw [ResourceSelector.permits]
  simp only [check_bind_eq_ok, rejectIf_eq_ok, ne_eq, not_not, and_assoc]
  refine and_congr_right fun _ => and_congr_right fun _ => and_congr_right fun _ =>
    and_congr_right fun _ => ?_
  by_cases hkind : resource.kind ∈ s.kinds
  · simp only [hkind, not_true_eq_false, if_false, true_and]
    cases hexists : snapshot.existsRef service resource with
    | error e => simp [bind, Except.bind]
    | ok present =>
      cases present with
      | false => simp [bind, Except.bind, pure, Except.pure]
      | true => simp [bind, Except.bind]
  · simp [hkind, pure, Except.pure]

theorem kept_selector {child parent : ResourceSelector} (hwithin : child.within parent = .ok true)
    (hpermits : child.permits service resource snapshot = .ok true) :
    Kept (SelectionFails snapshot service resource parent.selection)
      (parent.permits service resource snapshot) := by
  obtain ⟨⟨-, hparent⟩, hservice, hkinds, hselection⟩ := ResourceSelector.within_eq_true.mp hwithin
  obtain ⟨⟨-, htext, hresource⟩, hexpected, hkind, hexists, hpermits⟩ :=
    selector_permits_eq_true.mp hpermits
  rcases kept_selection hselection hpermits with hkept | ⟨e, herror, hfails⟩
  · left
    exact selector_permits_eq_true.mpr ⟨⟨hparent, htext, hresource⟩, hservice ▸ hexpected,
      hkinds _ hkind, hexists, hkept⟩
  · right
    refine ⟨e, ?_, hfails⟩
    rw [ResourceSelector.permits, hparent, htext, hresource]
    simp [bind, Except.bind, rejectIf, ← hservice, hexpected, hkinds _ hkind, hexists, herror]

/-! ## Rules -/

/-- `if !x? { return Ok(false) }` before the rest -/
theorem Kept.and {fails : String → Prop} {x y : Result Bool} (hx : Kept fails x)
    (hy : Kept fails y) : Kept fails (do if ← x then y else .ok false) := by
  rcases hx with rfl | ⟨e, rfl, hfails⟩
  · exact hy
  · exact .inr ⟨e, rfl, hfails⟩

theorem and_eq_true {x y : Result Bool} :
    (do if ← x then y else .ok false) = .ok true ↔ x = .ok true ∧ y = .ok true := by
  cases x with
  | error e => simp [bind, Except.bind]
  | ok b => cases b <;> simp [bind, Except.bind]

theorem kept_permitsAll {child parent : ResourceSelector} (hwithin : child.within parent = .ok true)
    {targets : List ResourceRef}
    (hpermits : EffectRule.permitsAll child service snapshot targets = .ok true) :
    Kept (fun e => ∃ resource ∈ targets,
        SelectionFails snapshot service resource parent.selection e)
      (EffectRule.permitsAll parent service snapshot targets) := by
  induction targets with
  | nil => exact .inl rfl
  | cons target rest ih =>
    obtain ⟨htarget, hrest⟩ := and_eq_true.mp hpermits
    refine ((kept_selector hwithin htarget).mono ?_).and ((ih hrest).mono ?_)
    · intro e hfails
      exact ⟨target, List.mem_cons_self, hfails⟩
    · rintro e ⟨resource, hmem, hfails⟩
      exact ⟨resource, List.mem_cons_of_mem _ hmem, hfails⟩

/-- Every role of the narrower rule is within the role of that name in the wider one. -/
def Narrows (child parent : List RoleSelection) : Prop :=
  ∀ s ∈ child, ∃ p, parent.find? (·.role = s.role) = some p ∧
    s.selector.within p.selector = .ok true

variable {effects : List ResolvedRole}

theorem kept_permitsEffects {child parent : EffectRule}
    (hnarrows : Narrows child.roles parent.roles)
    (hpermits : child.permitsEffects service snapshot effects = .ok true) :
    Kept (RuleFails snapshot service effects parent)
      (parent.permitsEffects service snapshot effects) := by
  induction effects with
  | nil => exact .inl rfl
  | cons effect rest ih =>
    rw [EffectRule.permitsEffects, bind_eq_ok] at hpermits
    obtain ⟨selection, hselection, hpermits⟩ := hpermits
    rw [elim_eq_ok] at hselection
    obtain ⟨htargets, hrest⟩ := and_eq_true.mp hpermits
    have hrole : selection.role = effect.role := by
      simpa using List.find?_some hselection
    obtain ⟨wider, hfind, hwithin⟩ := hnarrows selection (List.mem_of_find?_eq_some hselection)
    rw [hrole] at hfind
    rw [EffectRule.permitsEffects, hfind]
    refine ((kept_permitsAll hwithin htargets).mono ?_).and ((ih hrest).mono ?_)
    · intro e hfails
      exact ⟨effect, List.mem_cons_self, wider, hfind, hfails⟩
    · rintro e ⟨effect', hmem, hfails⟩
      exact ⟨effect', List.mem_cons_of_mem _ hmem, hfails⟩

theorem permits_eq_true :
    rule.permits contract effects snapshot = .ok true ↔
      rule.validate contract = .ok () ∧ contract.validatePlan effects = .ok () ∧
        rule.permitsEffects contract.service snapshot effects = .ok true := by
  rw [EffectRule.permits, check_bind_eq_ok, check_bind_eq_ok]

theorem kept_permits {child parent : EffectRule} (hnarrows : Narrows child.roles parent.roles)
    (hparent : parent.validate contract = .ok ())
    (hpermits : child.permits contract effects snapshot = .ok true) :
    Kept (RuleFails snapshot contract.service effects parent)
      (parent.permits contract effects snapshot) := by
  obtain ⟨-, hplan, heffects⟩ := permits_eq_true.mp hpermits
  rw [EffectRule.permits, hparent, hplan]
  exact kept_permitsEffects hnarrows heffects

end

/-! ## Valid rules -/

structure RuleValid (contract : EffectContract) (rule : EffectRule) : Prop where
  installed : contract.validate = .ok ()
  service : rule.service = contract.service
  operation : rule.operation = contract.operation
  length : rule.roles.length = contract.roles.length
  selections : ∀ s ∈ rule.roles, ∃ role, contract.roles.find? (·.name = s.role) = some role ∧
    s.selector.validate = .ok () ∧ s.selector.service = contract.service ∧
    ∀ k ∈ s.selector.kinds, k ∈ role.kinds
  distinct : rule.roles.Pairwise (·.role ≠ ·.role)

theorem validate_eq_ok :
    rule.validate contract = .ok () ↔ RuleValid contract rule := by
  have hbody : ∀ (before : List RoleSelection) (s : RoleSelection), (do
      let role ← (contract.roles.find? (·.name = s.role)).elim (.error invalidCompound) .ok
      s.selector.validate
      rejectIf (before.any (·.role = s.role) ∨ s.selector.service ≠ contract.service ∨
        s.selector.kinds.all (· ∈ role.kinds) = false) invalidCompound : Result Unit) = .ok () ↔
      (∃ role, contract.roles.find? (·.name = s.role) = some role ∧
        s.selector.validate = .ok () ∧ s.selector.service = contract.service ∧
        ∀ k ∈ s.selector.kinds, k ∈ role.kinds) ∧ ∀ s' ∈ before, s'.role ≠ s.role := by
    intro before s
    rw [bind_eq_ok]
    simp only [elim_eq_ok, check_bind_eq_ok, rejectIf_eq_ok, not_or, ne_eq, not_not,
      Bool.not_eq_false, List.all_eq_true, decide_eq_true_eq, List.any_eq_true, not_exists, not_and]
    constructor
    · rintro ⟨role, hfind, hvalid, hbefore, hservice, hkinds⟩
      exact ⟨⟨role, hfind, hvalid, hservice, hkinds⟩, hbefore⟩
    · rintro ⟨⟨role, hfind, hvalid, hservice, hkinds⟩, hbefore⟩
      exact ⟨role, hfind, hvalid, hbefore, hservice, hkinds⟩
  rw [EffectRule.validate, check_bind_eq_ok, check_bind_eq_ok, rejectIf_eq_ok,
    forEnumerated_nil_eq_ok hbody]
  simp only [not_or, ne_eq, not_not]
  constructor
  · rintro ⟨hcontract, ⟨hservice, hoperation, hlength⟩, hselections, hdistinct⟩
    exact ⟨hcontract, hservice, hoperation, hlength, hselections, hdistinct⟩
  · intro h
    exact ⟨h.installed, ⟨h.service, h.operation, h.length⟩, h.selections, h.distinct⟩

def ruleOf (contract : EffectContract) (p : Permission) : EffectRule :=
  ⟨contract.service, p.operation, p.roles⟩

theorem effectRule_eq_ok {p : Permission} :
    p.effectRule contract = .ok rule ↔
      p.Valid contract.service ∧ RuleValid contract rule ∧
        rule = ruleOf contract p := by
  rw [Permission.effectRule, check_bind_eq_ok, Permission.validate_eq_ok, check_bind_eq_ok,
    validate_eq_ok]
  constructor
  · rintro ⟨hvalid, hrule, heq⟩
    obtain rfl := Except.ok.inj heq
    exact ⟨hvalid, hrule, rfl⟩
  · rintro ⟨hvalid, hrule, rfl⟩
    exact ⟨hvalid, hrule, rfl⟩

/-! ## From a credential to its grant -/

/-- With as many roles on both sides, every role of the wider side is one that is narrowed. -/
theorem narrowed_of_length {child parent : List RoleSelection} (hnarrows : Narrows child parent)
    (hlength : child.length = parent.length) (hchild : child.Pairwise (·.role ≠ ·.role))
    (hparent : parent.Pairwise (·.role ≠ ·.role)) :
    ∀ r ∈ parent, ∃ s ∈ child, s.role = r.role ∧ s.selector.within r.selector = .ok true := by
  have hnames : (child.map (·.role)).Subperm (parent.map (·.role)) := by
    refine List.subperm_of_subset (List.pairwise_map.mpr hchild) ?_
    intro name hname
    obtain ⟨s, hs, rfl⟩ := List.mem_map.mp hname
    obtain ⟨p, hfind, -⟩ := hnarrows s hs
    have hrole : p.role = s.role := by simpa using List.find?_some hfind
    exact List.mem_map.mpr ⟨p, List.mem_of_find?_eq_some hfind, hrole⟩
  have hperm := hnames.perm_of_length_le (by simp [hlength])
  intro r hr
  obtain ⟨s, hs, hrole⟩ := List.mem_map.mp (hperm.symm.subset (List.mem_map_of_mem hr))
  obtain ⟨p, hfind, hwithin⟩ := hnarrows s hs
  rw [hrole, find?_of_distinct hparent hr] at hfind
  obtain rfl := Option.some.inj hfind
  exact ⟨s, hs, hrole, hwithin⟩

/-- The contract takes every kind that the permission's selectors name. -/
def AdmittedBy (contract : EffectContract) (p : Permission) : Prop :=
  ∀ s ∈ p.roles, ∀ role ∈ contract.roles, role.name = s.role →
    ∀ k ∈ s.selector.kinds, k ∈ role.kinds

theorem within_grant {crates : Crates} {strict : Strict crates} {pin : IssuerPin}
    {credential : Credential Permission} {now : UInt64}
    (haccept : ScopedGrants.verifyCredential crates strict pin credential now = .ok ())
    {c : Permission} (hc : c ∈ credential.claims.permissions) :
    ∃ p ∈ credential.grant.claims.permissions, Permission.Matches c p ∧ Narrows c.roles p.roles ∧
      ∃ service, p.Valid service := by
  obtain ⟨hverified, -⟩ := HolderGrants.Version.verifyCredential_eq_ok.mp haccept
  obtain ⟨-, hparent, hfound⟩ := ScopedGrants.permissionsWithin_eq_ok.mp
    hverified.checked.permissions
  obtain ⟨-, p, hp, hmatch, hnarrower⟩ := Permission.foundIn_eq_true.mp (hfound c hc)
  obtain ⟨-, hvalid, -⟩ := ScopedGrants.permissions_eq_ok.mp hparent
  obtain ⟨first, -, hvalid⟩ := hvalid p hp
  exact ⟨p, hp, hmatch, Permission.narrower_eq_true.mp hnarrower, _, hvalid⟩

/-- The wider permission's rule is valid too, if the contract takes the kinds it names. -/
theorem effectRule_of_narrows {c p : Permission} (hrule : c.effectRule contract = .ok rule)
    (hmatch : Permission.Matches c p) (hnarrows : Narrows c.roles p.roles) {service : String}
    (hp : p.Valid service) (hadmitted : AdmittedBy contract p) :
    p.effectRule contract = .ok (ruleOf contract p) := by
  obtain ⟨hc, hvalid, rfl⟩ := effectRule_eq_ok.mp hrule
  obtain ⟨hoperation, -, -, hlength⟩ := hmatch
  have hnarrowed := narrowed_of_length hnarrows hlength hc.distinct hp.distinct
  have hselectors : ∀ r ∈ p.roles, r.selector.service = contract.service ∧
      ∃ role, contract.roles.find? (·.name = r.role) = some role := by
    intro r hr
    obtain ⟨s, hs, hrole, hwithin⟩ := hnarrowed r hr
    obtain ⟨-, hservice, -⟩ := ResourceSelector.within_eq_true.mp hwithin
    obtain ⟨role, hfind, -⟩ := hvalid.selections s hs
    exact ⟨hservice ▸ (hc.selectors s hs).2.2, role, hrole ▸ hfind⟩
  obtain ⟨r, hr⟩ := List.exists_mem_of_ne_nil _ hp.roles.1
  have hservice : service = contract.service :=
    (hp.selectors r hr).2.2.symm.trans (hselectors r hr).1
  refine effectRule_eq_ok.mpr ⟨hservice ▸ hp, ⟨hvalid.installed, rfl, ?_, ?_, ?_, hp.distinct⟩, rfl⟩
  · exact hoperation.symm.trans hvalid.operation
  · exact hlength.symm.trans hvalid.length
  · intro s hs
    obtain ⟨hselector, role, hfind⟩ := hselectors s hs
    refine ⟨role, hfind, (hp.selectors s hs).2.1, hselector, ?_⟩
    exact hadmitted s hs role (List.mem_of_find?_eq_some hfind)
      (by simpa using List.find?_some hfind)

/-- What one permission of an accepted credential permits, one permission of its grant for the same
operation, resource and constraints permits: its selectors do, and if the contract takes the kinds
they name, the grant's own rule is valid and does. It may only fail where a provider lookup does. -/
theorem credential_effect_within_grant {crates : Crates} {strict : Strict crates} {pin : IssuerPin}
    {credential : Credential Permission} {now : UInt64}
    (haccept : ScopedGrants.verifyCredential crates strict pin credential now = .ok ())
    {contract : EffectContract} {effects : List ResolvedRole} {snapshot : ResourceSnapshot}
    {c : Permission} (hc : c ∈ credential.claims.permissions) {rule : EffectRule}
    (hrule : c.effectRule contract = .ok rule)
    (hpermits : rule.permits contract effects snapshot = .ok true) :
    ∃ p ∈ credential.grant.claims.permissions,
      p.operation = c.operation ∧ p.resource = c.resource ∧ p.constraints = c.constraints ∧
      Kept (RuleFails snapshot contract.service effects (ruleOf contract p))
        ((ruleOf contract p).permitsEffects contract.service snapshot effects) ∧
      (AdmittedBy contract p → p.effectRule contract = .ok (ruleOf contract p) ∧
        Kept (RuleFails snapshot contract.service effects (ruleOf contract p))
          ((ruleOf contract p).permits contract effects snapshot)) := by
  obtain ⟨p, hp, hmatch, hnarrows, service, hvalid⟩ := within_grant haccept hc
  obtain ⟨-, -, rfl⟩ := effectRule_eq_ok.mp hrule
  refine ⟨p, hp, hmatch.1.symm, hmatch.2.1.symm, hmatch.2.2.1.symm, ?_, ?_⟩
  · obtain ⟨-, -, heffects⟩ := permits_eq_true.mp hpermits
    exact kept_permitsEffects hnarrows heffects
  · intro hadmitted
    have hparent := effectRule_of_narrows hrule hmatch hnarrows hvalid hadmitted
    obtain ⟨-, hparentValid, -⟩ := effectRule_eq_ok.mp hparent
    exact ⟨hparent, kept_permits hnarrows (validate_eq_ok.mpr hparentValid) hpermits⟩

end

namespace Sample

open GrantUsability.Sample (pin issuerKey holderKey claims)
open ScopedGrants (v2)

def contract : EffectContract := ⟨"archive", "read", [⟨"source", ["deed"], 1, 1⟩]⟩

def plan : List ResolvedRole := [⟨"source", [⟨"deed", "d1"⟩]⟩]

/-- Reading deeds and maps of the archive that a selection picks. -/
def select (kinds : List String) (selection : Selection) : Permission :=
  ⟨"read", "deed", [⟨"source", ⟨schema, "archive", kinds, selection⟩⟩], .object []⟩

def inVaults (vaults : List String) : Permission :=
  select ["deed"] (.descendants ⟨"contains", vaults.map fun v => ⟨"vault", v⟩, false⟩)

/-- Everything is in every vault; the north vault does not answer. -/
def northOffline : ResourceSnapshot where
  existsRef _ r := if r.id = "north" then .error "offline" else .ok true
  supportsRelation _ _ := .ok true
  isDescendant _ _ _ _ := .ok true

/-- The holder of a grant derives a credential for a narrower permission, which is accepted at 1600:
its permissions and those of its grant. -/
def derived (wide narrow : Permission) : Result (List Permission × List Permission) := do
  let grant ← ScopedGrants.issueGrant .transparent .transparent pin (claims v2 [wide])
    issuerKey 1500
  let credential ← ScopedGrants.deriveCredential .transparent .transparent pin grant
    [narrow] none (lowerHex (Bytes.filled 16 5).val) 1500 2500 holderKey
  ScopedGrants.verifyCredential .transparent .transparent pin credential 1600
  return (credential.claims.permissions, credential.grant.claims.permissions)

theorem accepted {wide narrow : Permission} (h : derived wide narrow = .ok ([narrow], [wide])) :
    ∃ credential, ScopedGrants.verifyCredential .transparent .transparent pin credential
        1600 = .ok () ∧
      credential.claims.permissions = [narrow] ∧ credential.grant.claims.permissions = [wide] := by
  obtain ⟨grant, -, h⟩ := bind_eq_ok.mp h
  obtain ⟨credential, -, h⟩ := bind_eq_ok.mp h
  obtain ⟨haccept, h⟩ := check_bind_eq_ok.mp h
  exact ⟨credential, haccept, Prod.mk.inj (Except.ok.inj h)⟩

theorem derived_south :
    derived (inVaults ["north", "south"]) (inVaults ["south"]) =
      .ok ([inVaults ["south"]], [inVaults ["north", "south"]]) := by
  decide +kernel

def Allows (permissions : List Permission) : Prop :=
  ∃ c ∈ permissions, ∃ rule, c.effectRule contract = .ok rule ∧
    rule.permits contract plan northOffline = .ok true

theorem south_rule :
    (inVaults ["south"]).effectRule contract = .ok (ruleOf contract (inVaults ["south"])) ∧
      (ruleOf contract (inVaults ["south"])).permits contract plan northOffline = .ok true := by
  decide +kernel

/-- The credential permits the plan. In the first case its grant names a kind that the contract does
not take, so the grant's rule is invalid; in the second it names a vault that does not answer, so
the grant's rule fails. -/
theorem grant_rule_unavailable :
    (∃ credential, ScopedGrants.verifyCredential .transparent .transparent pin credential
        1600 = .ok () ∧ Allows credential.claims.permissions ∧
      ∀ p ∈ credential.grant.claims.permissions, ∀ parent, p.effectRule contract ≠ .ok parent) ∧
    ∃ credential, ScopedGrants.verifyCredential .transparent .transparent pin credential
        1600 = .ok () ∧ Allows credential.claims.permissions ∧
      ∀ p ∈ credential.grant.claims.permissions, ∃ parent, p.effectRule contract = .ok parent ∧
        parent.permits contract plan northOffline = .error "offline" := by
  constructor
  · have hderived : derived (select ["deed", "map"] .all) (select ["deed"] .all) =
        .ok ([select ["deed"] .all], [select ["deed", "map"] .all]) := by decide +kernel
    have hinvalid : (select ["deed", "map"] .all).effectRule contract =
        .error invalidCompound := by decide +kernel
    obtain ⟨credential, haccept, hnarrow, hwide⟩ := accepted hderived
    refine ⟨credential, haccept, ?_, ?_⟩
    · rw [hnarrow]
      exact ⟨_, List.mem_singleton_self _, ruleOf contract (select ["deed"] .all),
        by decide +kernel, by decide⟩
    · rw [hwide]
      refine List.forall_mem_singleton.mpr fun parent hparent => ?_
      cases hinvalid.symm.trans hparent
  · obtain ⟨credential, haccept, hnarrow, hwide⟩ := accepted derived_south
    refine ⟨credential, haccept, ?_, ?_⟩
    · rw [hnarrow]
      exact ⟨_, List.mem_singleton_self _, _, south_rule⟩
    · rw [hwide]
      exact List.forall_mem_singleton.mpr
        ⟨ruleOf contract (inVaults ["north", "south"]), by decide +kernel, by decide⟩

/-- The grant for both vaults permits what the credential for one of them does, or fails. -/
theorem south_effect_within_grant : ∃ credential,
    ScopedGrants.verifyCredential .transparent .transparent pin credential 1600 = .ok () ∧
    Allows credential.claims.permissions ∧
    ∃ p ∈ credential.grant.claims.permissions, p.operation = "read" ∧
      Kept (RuleFails northOffline contract.service plan (ruleOf contract p))
        ((ruleOf contract p).permitsEffects contract.service northOffline plan) := by
  obtain ⟨credential, haccept, hnarrow, -⟩ := accepted derived_south
  have hc : inVaults ["south"] ∈ credential.claims.permissions := by
    rw [hnarrow]
    exact List.mem_singleton_self _
  obtain ⟨hrule, hpermits⟩ := south_rule
  obtain ⟨p, hp, hoperation, -, -, hkept, -⟩ :=
    credential_effect_within_grant haccept hc hrule hpermits
  exact ⟨credential, haccept, ⟨_, hc, _, hrule, hpermits⟩, p, hp, hoperation, hkept⟩

end Sample

end Attenuation
