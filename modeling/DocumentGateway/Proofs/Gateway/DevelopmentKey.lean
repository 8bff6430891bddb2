import DocumentGateway.Gateway.Basic
import DocumentGateway.Gateway.Loading
import DocumentGateway.Proofs.Access.Scope
import DocumentGateway.Proofs.Except
import DocumentGateway.Proofs.SortedMap
import DocumentGateway.Proofs.Text.Words

/-!
# The development key

Settings without a key are given the development key, whose scopes have a star for the
database and one for the collection. A star stands for one segment. So whoever holds the key
may do everything to the collections whose names have no dot, and nothing to the others,
although the store keeps collections under such names as well.
-/
namespace DocumentGateway

open Text (IsWord)

/-! ## Names in scopes -/

/-- No character of a name in a scope is blank. -/
theorem isBlank_of_isScopeNameCharacter {c : Char} (accepted : isScopeNameCharacter c = true) :
    Text.isBlank c = false := by
  have code : ∀ d : Char, c ≤ d ↔ c.toNat ≤ d.toNat := fun _ => Iff.rfl
  have codeAbove : ∀ d : Char, d ≤ c ↔ d.toNat ≤ c.toNat := fun _ => Iff.rfl
  have range : (97 ≤ c.toNat ∧ c.toNat ≤ 122) ∨ (65 ≤ c.toNat ∧ c.toNat ≤ 90) ∨
      (48 ≤ c.toNat ∧ c.toNat ≤ 57) ∨ c.toNat = 95 ∨ c.toNat = 46 := by
    simp only [isScopeNameCharacter, Bool.or_eq_true, Bool.and_eq_true, decide_eq_true_eq, code,
      codeAbove] at accepted
    rcases accepted with (((small | large) | digit) | rfl) | rfl
    · exact .inl small
    · exact .inr (.inl large)
    · exact .inr (.inr (.inl digit))
    · exact .inr (.inr (.inr (.inl rfl)))
    · exact .inr (.inr (.inr (.inr rfl)))
  simp [Text.isBlank, Text.blankRanges]
  omega

/-- Names in front of scopes that settings may have. -/
structure ScopeRoot.Proper (root : ScopeRoot) : Prop where
  system : isScopeName root.system = true
  service : isScopeName root.service = true

/-- A scope with stars for the database and the collection is a single word. -/
theorem ScopeRoot.Proper.isWord {root : ScopeRoot} (proper : root.Proper) (permission : Permission) :
    IsWord (root.scope "*" "*" permission).toList := by
  have blankFree : ∀ name, isScopeName name = true → ∀ c ∈ name.toList, Text.isBlank c = false := by
    intro name accepted c member
    simp only [isScopeName, Bool.and_eq_true, List.all_eq_true] at accepted
    exact isBlank_of_isScopeNameCharacter (accepted.2 c member)
  have actionBlankFree : ∀ c ∈ permission.name.toList, Text.isBlank c = false := by
    have each : (permission.name.toList.all fun c => !Text.isBlank c) = true := by
      cases permission <;> rfl
    simpa using each
  have text : (root.scope "*" "*" permission).toList = root.system.toList ++
      ('.' :: root.service.toList ++ (['.', '*', '.', '*', '.'] ++ permission.name.toList)) := by
    simp [ScopeRoot.scope, Text.join]
  rw [text]
  refine ⟨by simp, fun c member => ?_⟩
  have plain : ∀ c ∈ ['.', '*', '.', '*', '.'], Text.isBlank c = false := by
    have each : (['.', '*', '.', '*', '.'].all fun c => !Text.isBlank c) = true := rfl
    simpa using each
  rcases List.mem_append.mp member with inSystem | later
  · exact blankFree _ proper.system c inSystem
  rcases List.mem_append.mp later with inService | later
  · rcases List.mem_cons.mp inService with rfl | inService
    · decide
    · exact blankFree _ proper.service c inService
  rcases List.mem_append.mp later with inPlain | inAction
  · exact plain c inPlain
  · exact actionBlankFree c inAction

/-! ## What a star covers -/

/-- A demand whose scope has a star for the database and one for the collection. -/
def Demand.star (permission : Permission) : Demand :=
  ⟨"*", "*", permission, by decide⟩

/-- The two stars stand for every database and for the collections without a dot in their
names. -/
theorem Demand.grant_star_admits_iff {permission : Permission} {demand : Demand} :
    (star permission).grant.Admits demand ↔
      demand.permission = permission ∧ '.' ∉ demand.collection.toList := by
  have grant : (star permission).grant = ⟨['*'], [['*']], permission.name.toList⟩ := by
    simp [Demand.grant, star, Text.pieces]
  rw [grant]
  constructor
  · rintro ⟨-, collection, action⟩
    have same := action.resolve_left permission.name_plain.2
    refine ⟨(Permission.name_inj.mp (String.toList_injective same)).symm, ?_⟩
    have single : 1 = demand.collection.toList.count '.' + 1 := by
      rw [← Text.length_pieces]
      exact collection.length_eq
    exact List.count_eq_zero.mp (by omega)
  · rintro ⟨rfl, undotted⟩
    refine ⟨.inl rfl, ?_, .inr rfl⟩
    rw [Text.pieces_eq_singleton undotted]
    exact .cons (.inl rfl) .nil

/-! ## The scopes of a key -/

namespace GatewaySettings

/-- The scopes granted by a text are its words. -/
theorem mem_scopesOfText (text scope : String) :
    scope ∈ scopesOfText text ↔ ∃ word ∈ Text.words text.toList, String.ofList word = scope := by
  suffices stored : ∀ (words : List (List Char)) (scopes : SortedMap Unit),
      scope ∈ (words.foldl (fun scopes word => scopes.insert (String.ofList word) ()) scopes).keys ↔
        scope ∈ scopes.keys ∨ ∃ word ∈ words, String.ofList word = scope by
    rw [scopesOfText, stored]
    simp [SortedMap.mem_keys_iff]
  intro words
  induction words with
  | nil => simp
  | cons word rest inductionHypothesis =>
    intro scopes
    rw [List.foldl_cons, inductionHypothesis]
    by_cases same : String.ofList word = scope <;> simp [SortedMap.mem_keys_iff, same]

/-- The scopes of the development key are those with stars, one for every action. -/
theorem mem_scopesOfText_developmentScopes {settings : GatewaySettings}
    (proper : settings.scopeRoot.Proper) (scope : String) :
    scope ∈ scopesOfText settings.developmentScopes ↔
      ∃ permission, settings.scopeRoot.scope "*" "*" permission = scope := by
  have each : ∀ part ∈ Permission.all.map (settings.scopeRoot.scope "*" "*"), IsWord part.toList := by
    intro part member
    obtain ⟨permission, -, rfl⟩ := List.mem_map.mp member
    exact proper.isWord permission
  have complete : ∀ permission, permission ∈ Permission.all := by
    intro permission
    cases permission <;> decide
  rw [mem_scopesOfText, developmentScopes, Text.words_join each]
  simp [complete]

/-- The development key holds the scope of an action exactly if the collection has no dot in
its name. -/
theorem hasScope_development_iff {settings : GatewaySettings} (proper : settings.scopeRoot.Proper)
    (demand : Demand) :
    Principal.hasScope ⟨Gateway.keyId developmentKey, scopesOfText settings.developmentScopes⟩
        (settings.scopeRoot.required demand) = true ↔ '.' ∉ demand.collection.toList := by
  rw [Principal.hasScope, List.any_eq_true]
  simp only [mem_scopesOfText_developmentScopes proper]
  constructor
  · rintro ⟨_, ⟨permission, rfl⟩, covered⟩
    have reads := settings.scopeRoot.reads_required (.star permission)
    exact (Demand.grant_star_admits_iff.mp ((reads.covers_iff demand).mp covered)).2
  · intro undotted
    have reads := settings.scopeRoot.reads_required (.star demand.permission)
    refine ⟨_, ⟨demand.permission, rfl⟩, (reads.covers_iff demand).mpr ?_⟩
    exact Demand.grant_star_admits_iff.mpr ⟨rfl, undotted⟩

/-! ## Loaded settings -/

/-- Settings that pass the check have proper names in front of their scopes. -/
theorem proper_of_validate {settings : GatewaySettings} (valid : settings.validate = .ok ()) :
    settings.scopeRoot.Proper := by
  unfold validate at valid
  split at valid
  · cases valid
  · rename_i systemAccepted
    split at valid
    · cases valid
    · rename_i serviceAccepted
      exact ⟨by simpa [scopeRoot] using systemAccepted, by simpa [scopeRoot] using serviceAccepted⟩

/-- Loaded settings are what the file and the variables make up, with the development key if
these hold no key, and they have passed the check. -/
theorem load_eq_ok {environment : Config.Variables} {file? : String → Option String}
    {settings : GatewaySettings} (loaded : load environment file? = .ok settings) :
    ∃ given, readLayers? environment file? = some given ∧ settings = given.withDevelopmentKey ∧
      settings.validate = .ok () := by
  unfold load at loaded
  cases given : readLayers? environment file? with
  | none => simp [given] at loaded
  | some found =>
    simp only [given] at loaded
    split at loaded
    · rename_i valid
      obtain rfl := Except.ok.inj loaded
      exact ⟨found, rfl, rfl, valid⟩
    · cases loaded

end GatewaySettings

namespace Gateway

open GatewaySettings

/-- A principal may act on a collection exactly if it has the scope, in a database without a
dot in its name. -/
theorem authorize_ok_iff {settings : GatewaySettings} {principal : Principal}
    {database collection : String} {permission : Permission} :
    authorize settings principal database collection permission = .ok () ↔
      '.' ∉ database.toList ∧
        principal.hasScope (settings.scopeRoot.scope database collection permission) = true := by
  by_cases dotted : '.' ∈ database.toList
  · simp [authorize, dotted]
  · simp [authorize, dotted]

/-- Whoever holds the development key, which settings without a key are given, may do
everything to the collections without a dot in their names, in every database, and nothing to
the others. -/
theorem development_key_authorized_iff {environment : Config.Variables}
    {file? : String → Option String} {given settings : GatewaySettings}
    (read : readLayers? environment file? = some given) (keyless : given.apiKeys.isEmpty = true)
    (loaded : load environment file? = .ok settings) :
    ∃ principal, principalFor? settings developmentKey = some principal ∧
      ∀ database collection permission, '.' ∉ database.toList →
        (authorize settings principal database collection permission = .ok () ↔
          '.' ∉ collection.toList) := by
  obtain ⟨found, readFound, rfl, valid⟩ := load_eq_ok loaded
  obtain rfl : given = found := Option.some.inj (read.symm.trans readFound)
  have proper := proper_of_validate valid
  have root : given.withDevelopmentKey.scopeRoot = given.scopeRoot := by
    simp [withDevelopmentKey, keyless, scopeRoot]
  refine ⟨⟨keyId developmentKey, scopesOfText given.developmentScopes⟩, ?_, ?_⟩
  · simp [principalFor?, scopesFor?, withDevelopmentKey, keyless]
  · intro database collection permission undotted
    have holds := hasScope_development_iff proper ⟨database, collection, permission, undotted⟩
    rw [developmentScopes, root, ← developmentScopes] at holds
    rw [authorize_ok_iff, and_iff_right undotted, root]
    exact holds

/-- The settings that are loaded where there are neither files nor variables. -/
abbrev standardSettings : GatewaySettings :=
  ({} : GatewaySettings).withDevelopmentKey

/-- The theorem where nothing is configured: without files and variables the standard settings are
loaded. -/
theorem standardSettings_development_key_authorized_iff :
    readLayers? [] (fun _ => none) = some {} ∧ load [] (fun _ => none) = .ok standardSettings ∧
      ∃ principal, principalFor? standardSettings developmentKey = some principal ∧
        ∀ database collection permission, '.' ∉ database.toList →
          (authorize standardSettings principal database collection permission = .ok () ↔
            '.' ∉ collection.toList) := by
  have read : readLayers? [] (fun _ => none) = some {} := rfl
  have loaded : load [] (fun _ => none) = .ok standardSettings := rfl
  exact ⟨read, loaded, development_key_authorized_iff read rfl loaded⟩

/-- The store takes `a.b` as the name of a collection, but the development key does not let
anyone read it. -/
theorem development_key_refused_dotted :
    load [] (fun _ => none) = .ok standardSettings ∧
      validateName "database" "db" = .ok () ∧ validateName "collection" "a.b" = .ok () ∧
      ((principalFor? standardSettings developmentKey).map fun principal =>
          authorize standardSettings principal "db" "a.b" .read) =
        some (.error (.forbidden "objgate.objects.db.a.b.read")) :=
  ⟨rfl, by decide, by decide, by decide +kernel⟩

end Gateway

end DocumentGateway
