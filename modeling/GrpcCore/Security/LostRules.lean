import GrpcCore.Security.PolicyMeaning

/-!
# Rules that are lost

The policies of a list of rules are kept by the names of the rules, and a later rule takes the
place of an earlier one. The filter decides by the rules that are kept.
-/

namespace GrpcCore.Security

open GrpcAuthorizationEngine PolicyAuthorizationMatcher OrderedMap

def Json.ruleName (rule : Json) : String := ((rule.find "name").map Json.stringValue).getD ""

/-- The filter is to allow a request. -/
def PolicyAllows (denyRules allowRules : List Json) (args : EvaluateArgs) : Prop :=
  (¬ ∃ rule ∈ denyRules, RuleMatches rule args) ∧ ∃ rule ∈ allowRules, RuleMatches rule args

/-- A rule matches that no later rule of its list has the name of. -/
def KeptMatches (rules : List Json) (args : EvaluateArgs) : Prop :=
  ∃ rule later, rule :: later <:+ rules ∧
    (∀ other ∈ later, other.ruleName ≠ rule.ruleName) ∧ RuleMatches rule args

/-- A rule matches that a later rule of its list has the name of. -/
def LostMatches (rules : List Json) (args : EvaluateArgs) : Prop :=
  ∃ rule later, rule :: later <:+ rules ∧
    (∃ other ∈ later, other.ruleName = rule.ruleName) ∧ RuleMatches rule args

/-- The rules that are lost make no difference to a request. -/
def LossHarmless (denyRules allowRules : List Json) (args : EvaluateArgs) : Prop :=
  KeptMatches denyRules args ∨
    LostMatches denyRules args ∧ ¬ KeptMatches allowRules args ∨
    ¬ LostMatches denyRules args ∧ (KeptMatches allowRules args ∨ ¬ LostMatches allowRules args)

variable {args : EvaluateArgs}

theorem exists_ruleMatches_iff (rules : List Json) :
    (∃ rule ∈ rules, RuleMatches rule args) ↔ KeptMatches rules args ∨ LostMatches rules args := by
  constructor
  · rintro ⟨rule, listed, matched⟩
    obtain ⟨earlier, later, rfl⟩ := List.append_of_mem listed
    have suffix : rule :: later <:+ earlier ++ rule :: later := List.suffix_append ..
    by_cases repeated : ∃ other ∈ later, other.ruleName = rule.ruleName
    · exact .inr ⟨rule, later, suffix, repeated, matched⟩
    · refine .inl ⟨rule, later, suffix, ?_, matched⟩
      intro other listed same
      exact repeated ⟨other, listed, same⟩
  · rintro (⟨rule, later, suffix, _, matched⟩ | ⟨rule, later, suffix, _, matched⟩)
    · exact ⟨rule, suffix.subset (List.mem_cons_self ..), matched⟩
    · exact ⟨rule, suffix.subset (List.mem_cons_self ..), matched⟩

variable {rules : List Json} {rule : Json}

theorem keptMatches_cons_iff :
    KeptMatches (rule :: rules) args ↔
      ((∀ other ∈ rules, other.ruleName ≠ rule.ruleName) ∧ RuleMatches rule args) ∨
        KeptMatches rules args := by
  constructor
  · rintro ⟨found, later, suffix, unseen, matched⟩
    rcases List.suffix_cons_iff.mp suffix with same | suffix
    · obtain ⟨rfl, rfl⟩ := List.cons.inj same
      exact .inl ⟨unseen, matched⟩
    · exact .inr ⟨found, later, suffix, unseen, matched⟩
  · rintro (⟨unseen, matched⟩ | ⟨found, later, suffix, unseen, matched⟩)
    · exact ⟨rule, rules, List.suffix_refl _, unseen, matched⟩
    · exact ⟨found, later, suffix.trans (List.suffix_cons ..), unseen, matched⟩

def Translated (name : String) (rule : Json) (entry : String × Policy) : Prop :=
  entry.1 = name ++ "_" ++ rule.ruleName ∧
    ∀ args, (PolicyAuthorizationMatcher.ofPolicy entry.2).matchesArgs args = true ↔
      RuleMatches rule args

variable {name : String} {entry : String × Policy}

theorem translated_of_parsed {i : Nat} (parsed : parseRulesChild name i rule = .ok entry) :
    Translated name rule entry := by
  cases rule with
  | object =>
    simp only [parseRulesChild] at parsed
    split at parsed
    · cases parsed
    · rename_i ruleName found
      obtain ⟨policy, parsedRules, made⟩ := exists_of_bind parsed
      cases made
      refine ⟨?_, fun args => ruleMatches_iff (ok_of_mapError parsedRules)⟩
      unfold Json.ruleName
      rw [found]
      rfl
    · cases parsed
  | _ => cases parsed

theorem keys_eq_iff {other : Json} {next : String × Policy} (here : Translated name rule entry)
    (there : Translated name other next) : next.1 = entry.1 ↔ other.ruleName = rule.ruleName := by
  rw [here.1, there.1, String.append_right_inj]

variable {entries : List (String × Policy)}

theorem forall_keys_iff (here : Translated name rule entry)
    (each : List.Forall₂ (Translated name) rules entries) :
    (∀ next ∈ entries, next.1 ≠ entry.1) ↔ ∀ other ∈ rules, other.ruleName ≠ rule.ruleName := by
  induction each with
  | nil => exact iff_of_true nofun nofun
  | cons first _ ih =>
    rw [List.forall_mem_cons, List.forall_mem_cons]
    exact and_congr (not_congr (keys_eq_iff here first)) ih

theorem lastOf_matches_iff (each : List.Forall₂ (Translated name) rules entries) :
    (∃ entry : String × Policy, OrderedMap.LastOf entry.1 entry.2 entries ∧
      (ofPolicy entry.2).matchesArgs args = true) ↔
      KeptMatches rules args := by
  induction each with
  | nil =>
    refine iff_of_false ?_ ?_
    · rintro ⟨entry, ⟨earlier, later, empty, _⟩, _⟩
      simp at empty
    · rintro ⟨rule, later, suffix, _⟩
      simp at suffix
  | @cons rule entry rules entries first rest ih =>
    rw [keptMatches_cons_iff, ← ih, ← forall_keys_iff first rest, ← first.2]
    constructor
    · rintro ⟨found, last, matched⟩
      rcases lastOf_cons_iff.mp last with ⟨rfl, unseen⟩ | later
      · exact .inl ⟨unseen, matched⟩
      · exact .inr ⟨found, later, matched⟩
    · rintro (⟨unseen, matched⟩ | ⟨found, later, matched⟩)
      · exact ⟨entry, lastOf_cons_iff.mpr (.inl ⟨rfl, unseen⟩), matched⟩
      · exact ⟨found, lastOf_cons_iff.mpr (.inr later), matched⟩

/-- The engine has the policies of the rules of a list. -/
def Holds (action : Rbac.Action) (policy : Rbac) (rules : List Json) : Prop :=
  policy.action = action ∧ ∀ args,
    (policy.policies.any fun entry =>
      (PolicyAuthorizationMatcher.ofPolicy entry.2).matchesArgs args) = true ↔
      KeptMatches rules args

variable {policy : Rbac}

theorem holds_of_parsed {action : Rbac.Action}
    (parsed : parseActionRulesArray action rules name = .ok policy) :
    Holds action policy rules := by
  obtain ⟨policies, parsedRules, made⟩ := exists_of_bind parsed
  cases made
  obtain ⟨entries, parsedArray, made⟩ := exists_of_bind parsedRules
  cases made
  refine ⟨rfl, fun args => ?_⟩
  have each : List.Forall₂ (Translated name) rules entries := by
    refine parseArray_forall₂ ?_ parsedArray
    intro i rule entry parsed
    exact translated_of_parsed parsed
  rw [← lastOf_matches_iff each, List.any_eq_true]
  apply exists_congr
  intro entry
  rw [← mem_foldl_assign_iff]

theorem holds_nil (action : Rbac.Action) : Holds action ⟨action, []⟩ [] := by
  refine ⟨rfl, fun args => iff_of_false Bool.false_ne_true ?_⟩
  rintro ⟨rule, later, suffix, _⟩
  simp at suffix

variable {json : Json}

theorem holds_deny (parsed : translateDenyRules json name = .ok policy) :
    Holds .kDeny policy (json.children "deny_rules") := by
  unfold translateDenyRules at parsed
  unfold Json.children
  split at parsed
  · rename_i absent
    cases parsed
    rw [absent]
    exact holds_nil .kDeny
  · rename_i elements found
    rw [found]
    exact holds_of_parsed (ok_of_mapError parsed)
  · cases parsed

theorem holds_allow (parsed : translateAllowRules json name = .ok policy) :
    Holds .kAllow policy (json.children "allow_rules") := by
  unfold translateAllowRules at parsed
  unfold Json.children
  split at parsed
  · cases parsed
  · rename_i elements found
    rw [found]
    exact holds_of_parsed (ok_of_mapError parsed)
  · cases parsed

variable {policies : RbacPolicies}

theorem holds_of_translated (translated : translatePolicies json = .ok policies) :
    Holds .kDeny policies.denyPolicy (json.children "deny_rules") ∧
      Holds .kAllow policies.allowPolicy (json.children "allow_rules") := by
  unfold translatePolicies at translated
  split at translated
  · split at translated
    · cases translated
    · obtain ⟨denyPolicy, parsedDeny, translated⟩ := exists_of_bind translated
      obtain ⟨allowPolicy, parsedAllow, made⟩ := exists_of_bind translated
      cases made
      exact ⟨holds_deny parsedDeny, holds_allow parsedAllow⟩
    · cases translated
  · cases translated

theorem type_evaluate_iff (policy : Rbac) :
    ((new policy).evaluate args).type = .kAllow ↔
      ((policy.policies.any fun entry =>
        (ofPolicy entry.2).matchesArgs args) = true ↔
        policy.action = .kAllow) := by
  have found : ((new policy).policies.find? fun policy =>
      policy.2.matchesArgs args).isSome = policy.policies.any fun entry =>
      (ofPolicy entry.2).matchesArgs args := by
    rw [List.isSome_find?, new, List.any_map]
    rfl
  have action : (new policy).action = policy.action := rfl
  unfold evaluate
  dsimp only
  rw [← decide_eq_true_iff (p := policy.action = .kAllow), ← Bool.eq_iff_iff, ← found, ← action]
  split
  · rename_i same
    exact iff_of_true rfl same
  · rename_i different
    exact iff_of_false nofun different

theorem not_kDeny_iff (type : DecisionType) : ¬ type = .kDeny ↔ type = .kAllow := by
  cases type with
  | kAllow => exact iff_of_true nofun rfl
  | kDeny => exact iff_of_false (absurd rfl) nofun

theorem denies_iff (held : Holds .kDeny policy rules) :
    ((new policy).evaluate args).type = .kDeny ↔ KeptMatches rules args := by
  rw [← not_iff_not, not_kDeny_iff, type_evaluate_iff, held.1, held.2]
  exact iff_false_right nofun

theorem allows_iff (held : Holds .kAllow policy rules) :
    ((new policy).evaluate args).type = .kAllow ↔ KeptMatches rules args := by
  rw [type_evaluate_iff, held.1, held.2]
  exact iff_true_right rfl

theorem isAuthorized_iff (translated : translatePolicies json = .ok policies) :
    isAuthorized (.new policies) args = true ↔
      ¬ KeptMatches (json.children "deny_rules") args ∧
        KeptMatches (json.children "allow_rules") args := by
  obtain ⟨deny, allow⟩ := holds_of_translated translated
  rw [← denies_iff deny, ← allows_iff allow]
  simp [isAuthorized, AuthorizationEngines.new]

theorem decides_as_listed_iff (translated : translatePolicies json = .ok policies) :
    (isAuthorized (.new policies) args = true ↔
      PolicyAllows (json.children "deny_rules") (json.children "allow_rules") args) ↔
      LossHarmless (json.children "deny_rules") (json.children "allow_rules") args := by
  rw [isAuthorized_iff translated]
  unfold PolicyAllows LossHarmless
  rw [exists_ruleMatches_iff, exists_ruleMatches_iff]
  by_cases denied : KeptMatches (json.children "deny_rules") args
  · simp [denied]
  · by_cases allowed : KeptMatches (json.children "allow_rules") args
    · simp [denied, allowed]
    · simp only [denied, allowed, false_or, not_false_eq_true, true_and, and_true, false_iff]
      tauto

/-- The filter built from an accepted policy allows a request as its rules say, if and only if
the rules that are lost make no difference. -/
theorem authorized_as_listed_iff (parse : String → Except String Json) (authzPolicy : String)
    (json : Json) (policies : RbacPolicies) (args : EvaluateArgs)
    (readable : parse authzPolicy = .ok json)
    (accepted : generateRbacPolicies parse authzPolicy = .ok policies) :
    (isAuthorized (.new policies) args = true ↔
      PolicyAllows (json.children "deny_rules") (json.children "allow_rules") args) ↔
      LossHarmless (json.children "deny_rules") (json.children "allow_rules") args := by
  unfold generateRbacPolicies at accepted
  rw [readable] at accepted
  exact decides_as_listed_iff accepted

/-- Two deny rules of one name, the first for every request. -/
def shadowedPolicy : Json :=
  .object
    [("allow_rules", .array [.object [("name", .string "all")]]),
      ("deny_rules", .array
        [.object [("name", .string "closed")],
          .object [("name", .string "closed"),
            ("request", .object [("paths", .array [.string "/admin"])])]]),
      ("name", .string "authz")]

def plainRequest : EvaluateArgs := ⟨"/echo", fun _ => none, "ssl", [], []⟩

theorem shadowedPolicy_accepted :
    ∃ policies, generateRbacPolicies (fun _ => .ok shadowedPolicy) "" = .ok policies ∧
      isAuthorized (.new policies) plainRequest = true := by
  have run : ((generateRbacPolicies (fun _ => .ok shadowedPolicy) "").toOption.any fun policies =>
      isAuthorized (.new policies) plainRequest) = true := by
    decide
  cases accepted : generateRbacPolicies (fun _ => .ok shadowedPolicy) "" with
  | error =>
    rw [accepted] at run
    cases run
  | ok policies =>
    rw [accepted] at run
    exact ⟨policies, rfl, run⟩

theorem authorized_as_listed_shadowed :
    ∃ policies, generateRbacPolicies (fun _ => .ok shadowedPolicy) "" = .ok policies ∧
      ((isAuthorized (.new policies) plainRequest = true ↔
        PolicyAllows (shadowedPolicy.children "deny_rules") (shadowedPolicy.children "allow_rules")
          plainRequest) ↔
        LossHarmless (shadowedPolicy.children "deny_rules") (shadowedPolicy.children "allow_rules")
          plainRequest) := by
  obtain ⟨policies, accepted, _⟩ := shadowedPolicy_accepted
  exact ⟨policies, accepted, authorized_as_listed_iff _ _ shadowedPolicy policies plainRequest rfl
    accepted⟩

/-- A deny rule that matches is lost to a later one of its name, and the request is allowed. -/
theorem deny_rule_lost :
    ∃ policies, generateRbacPolicies (fun _ => .ok shadowedPolicy) "" = .ok policies ∧
      ¬ (isAuthorized (.new policies) plainRequest = true ↔
        PolicyAllows (shadowedPolicy.children "deny_rules") (shadowedPolicy.children "allow_rules")
          plainRequest) := by
  obtain ⟨policies, accepted, authorized⟩ := shadowedPolicy_accepted
  refine ⟨policies, accepted, fun same => (same.mp authorized).1 ?_⟩
  have none : ((Json.object [("name", .string "closed")]).member "request").children "headers" = [] :=
    rfl
  refine ⟨.object [("name", .string "closed")], List.mem_cons_self .., .inl rfl, .inl rfl, ?_⟩
  rw [none]
  nofun

end GrpcCore.Security
