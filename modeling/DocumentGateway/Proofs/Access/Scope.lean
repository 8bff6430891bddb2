import DocumentGateway.Access.Scope
import DocumentGateway.Proofs.Text.Cut
import Mathlib.Data.List.Forall2

/-!
# What granted scopes cover

A scope is put together from names with dots between them, and some of the names hold dots
themselves. Still a granted scope says one thing only: below the names of the system and the
service, which are fixed, it has one segment for the database, then segments for the
collection, and at last one for the action. The name of a database holds no dot and neither
does that of an action, so the segments of the collection are what lies between the two.
-/
namespace DocumentGateway

/-- A granted segment stands for a required one: it is a star, or it is the same. -/
def Stands (granted required : List Char) : Prop :=
  granted = ['*'] ∨ granted = required

/-- Granted segments cover required ones exactly if there are as many of them and each one
stands for the one in its place. -/
theorem coversSegments_iff (granted required : List (List Char)) :
    coversSegments granted required = true ↔ List.Forall₂ Stands granted required := by
  induction granted, required using coversSegments.induct with
  | case1 => simp [coversSegments]
  | case2 first moreGranted second moreRequired inductionHypothesis =>
    simp [coversSegments, coversSegment, Stands, inductionHypothesis]
  | case3 granted required notBothEmpty notBothCons =>
    rw [coversSegments]
    · refine iff_of_false (by simp) fun standing => ?_
      cases standing with
      | nil => exact notBothEmpty rfl rfl
      | cons first rest => exact notBothCons _ _ _ _ rfl rfl
    · exact notBothEmpty
    · exact notBothCons

/-- What stands for segments in a row is a row of what stands for them. -/
theorem exists_append_of_stands {granted front back : List (List Char)}
    (standing : List.Forall₂ Stands granted (front ++ back)) :
    ∃ before after, granted = before ++ after ∧
      List.Forall₂ Stands before front ∧ List.Forall₂ Stands after back :=
  ⟨granted.take front.length, granted.drop front.length, (List.take_append_drop ..).symm,
    List.forall₂_take_append granted front back standing,
    List.forall₂_drop_append granted front back standing⟩

/-- Segments of which none is a star stand for themselves only. -/
theorem eq_of_literal {granted required : List (List Char)}
    (standing : List.Forall₂ Stands granted required) (literal : ['*'] ∉ granted) :
    granted = required := by
  induction standing with
  | nil => rfl
  | cons stands rest inductionHypothesis =>
    obtain ⟨notStar, literalRest⟩ := not_or.mp (mt List.mem_cons.mpr literal)
    rw [stands.resolve_left (Ne.symm notStar), inductionHypothesis literalRest]

/-- Coverage is a matter of segments. The two ways around them agree with this: equal scopes
have equal segments, and without a star in the text no segment is one. -/
theorem covers_iff (granted required : String) :
    covers granted required = true ↔
      List.Forall₂ Stands (Text.pieces '.' granted.toList) (Text.pieces '.' required.toList) := by
  unfold covers
  split
  · rename_i same
    subst same
    exact iff_of_true rfl (List.forall₂_same.mpr fun _ _ => .inr rfl)
  · rename_i different
    split
    · exact coversSegments_iff _ _
    · rename_i starless
      refine iff_of_false (by simp) fun standing => different ?_
      have literal : ['*'] ∉ Text.pieces '.' granted.toList := fun member =>
        starless (by simpa using Text.mem_of_mem_piece member (List.mem_singleton_self '*'))
      exact String.toList_injective (Text.pieces_inj.mp (eq_of_literal standing literal))

/-! ## Required scopes -/

/-- What a caller asks for: an action on a collection. A database with a dot in its name is
never asked for, since it is refused before. -/
structure Demand where
  database : String
  collection : String
  permission : Permission
  undotted : '.' ∉ database.toList

/-- The scope that a demand requires. -/
def ScopeRoot.required (root : ScopeRoot) (demand : Demand) : String :=
  root.scope demand.database demand.collection demand.permission

/-- The name of an action is a single segment and no star. -/
theorem Permission.name_plain (permission : Permission) :
    '.' ∉ permission.name.toList ∧ permission.name.toList ≠ ['*'] := by
  cases permission <;> decide

/-- No two permissions have one name, so a scope cannot grant one for another. -/
theorem Permission.name_inj {left right : Permission} : left.name = right.name ↔ left = right := by
  cases left <;> cases right <;> decide

/-- The segments of a required scope. -/
theorem ScopeRoot.pieces_required (root : ScopeRoot) (demand : Demand) :
    Text.pieces '.' (root.required demand).toList =
      Text.pieces '.' root.system.toList ++ Text.pieces '.' root.service.toList ++
        demand.database.toList ::
          (Text.pieces '.' demand.collection.toList ++ [demand.permission.name.toList]) := by
  have text : (root.required demand).toList =
      root.system.toList ++ '.' :: (root.service.toList ++ '.' :: (demand.database.toList ++
        '.' :: (demand.collection.toList ++ '.' :: demand.permission.name.toList))) := by
    simp [ScopeRoot.required, ScopeRoot.scope, Text.join]
  rw [text, Text.pieces_append_cons, Text.pieces_append_cons, Text.pieces_append _ demand.undotted,
    Text.pieces_append_cons, Text.pieces_eq_singleton demand.permission.name_plain.1,
    List.append_assoc]

/-! ## What a granted scope says -/

/-- What a granted scope says below the names of the system and the service. -/
structure Grant where
  database : List Char
  collection : List (List Char)
  action : List Char

/-- What is granted stands for a demand, part by part. -/
structure Grant.Admits (grant : Grant) (demand : Demand) : Prop where
  database : Stands grant.database demand.database.toList
  collection : List.Forall₂ Stands grant.collection (Text.pieces '.' demand.collection.toList)
  action : Stands grant.action demand.permission.name.toList

/-- What a demand would grant if its scope were a granted one. -/
def Demand.grant (demand : Demand) : Grant :=
  ⟨demand.database.toList, Text.pieces '.' demand.collection.toList, demand.permission.name.toList⟩

namespace ScopeRoot

variable {root : ScopeRoot} {granted : String}

/-- A granted scope is cut into segments that stand for those of the system and the service,
and then what it grants. -/
def Reads (root : ScopeRoot) (granted : String) (grant : Grant) : Prop :=
  ∃ system service, List.Forall₂ Stands system (Text.pieces '.' root.system.toList) ∧
    List.Forall₂ Stands service (Text.pieces '.' root.service.toList) ∧
    Text.pieces '.' granted.toList =
      system ++ service ++ grant.database :: (grant.collection ++ [grant.action])

/-- A granted scope is read in one way only: the names in front have a fixed number of
segments, then comes one for the database, and the last one is that of the action. -/
theorem Reads.unique {left right : Grant} (readLeft : root.Reads granted left)
    (readRight : root.Reads granted right) : left = right := by
  obtain ⟨system, service, systemStands, serviceStands, cut⟩ := readLeft
  obtain ⟨otherSystem, otherService, otherSystemStands, otherServiceStands, otherCut⟩ := readRight
  have width : (system ++ service).length = (otherSystem ++ otherService).length := by
    simp [systemStands.length_eq, serviceStands.length_eq, otherSystemStands.length_eq,
      otherServiceStands.length_eq]
  obtain ⟨-, sameGrant⟩ := List.append_inj (cut.symm.trans otherCut) width
  obtain ⟨sameDatabase, sameRest⟩ := List.cons.inj sameGrant
  obtain ⟨sameCollection, sameAction⟩ := List.append_inj' sameRest rfl
  cases left
  cases right
  simp_all

/-- A granted scope covers a demand exactly if what it grants stands for it. -/
theorem covers_required_iff (granted : String) (demand : Demand) :
    covers granted (root.required demand) = true ↔
      ∃ grant, root.Reads granted grant ∧ grant.Admits demand := by
  rw [covers_iff, root.pieces_required]
  constructor
  · intro standing
    obtain ⟨names, below, cut, namesStand, belowStands⟩ := exists_append_of_stands standing
    obtain ⟨system, service, rfl, systemStands, serviceStands⟩ := exists_append_of_stands namesStand
    obtain ⟨database, rest, databaseStands, restStands, rfl⟩ :=
      List.forall₂_cons_right_iff.mp belowStands
    obtain ⟨collection, last, rfl, collectionStands, lastStands⟩ := exists_append_of_stands restStands
    obtain ⟨action, _, actionStands, nothing, rfl⟩ := List.forall₂_cons_right_iff.mp lastStands
    obtain rfl := List.forall₂_nil_right_iff.mp nothing
    exact ⟨⟨database, collection, action⟩, ⟨system, service, systemStands, serviceStands, cut⟩,
      ⟨databaseStands, collectionStands, actionStands⟩⟩
  · rintro ⟨grant, ⟨system, service, systemStands, serviceStands, cut⟩, admits⟩
    rw [cut]
    refine List.rel_append (List.rel_append systemStands serviceStands) ?_
    exact .cons admits.database (List.rel_append admits.collection (.cons admits.action .nil))

/-- The way in which a granted scope is read decides what it covers. -/
theorem Reads.covers_iff {grant : Grant} (read : root.Reads granted grant) (demand : Demand) :
    covers granted (root.required demand) = true ↔ grant.Admits demand := by
  rw [covers_required_iff]
  constructor
  · rintro ⟨other, readOther, admits⟩
    exact read.unique readOther ▸ admits
  · exact fun admits => ⟨grant, read, admits⟩

/-- The scope that a demand requires is read as a grant of just this demand. -/
theorem reads_required (root : ScopeRoot) (demand : Demand) :
    root.Reads (root.required demand) demand.grant :=
  ⟨_, _, List.forall₂_same.mpr fun _ _ => .inr rfl, List.forall₂_same.mpr fun _ _ => .inr rfl,
    root.pieces_required demand⟩

/-- Different demands do not require the same scope. -/
theorem required_injective (root : ScopeRoot) : Function.Injective root.required := by
  rintro ⟨database, collection, permission, undotted⟩ other same
  have grants := (root.reads_required _).unique (same ▸ root.reads_required other)
  obtain ⟨sameDatabase, sameCollection, sameAction⟩ := Grant.mk.inj grants
  obtain rfl := String.toList_injective sameDatabase
  obtain rfl := String.toList_injective (Text.pieces_inj.mp sameCollection)
  obtain rfl := Permission.name_inj.mp (String.toList_injective sameAction)
  rfl

/-- What the scope of one demand covers besides is reached through stars in its own parts. -/
theorem confined_of_covers {own other : Demand}
    (covered : covers (root.required own) (root.required other) = true) :
    (own.database = "*" ∨ other.database = own.database) ∧
      (['*'] ∈ Text.pieces '.' own.collection.toList ∨ other.collection = own.collection) ∧
      other.permission = own.permission := by
  obtain ⟨database, collection, action⟩ := ((root.reads_required own).covers_iff other).mp covered
  refine ⟨database.imp (fun star => String.toList_injective star)
    fun same => (String.toList_injective same).symm, ?_, ?_⟩
  · by_cases star : ['*'] ∈ Text.pieces '.' own.collection.toList
    · exact .inl star
    · have same := Text.pieces_inj.mp (eq_of_literal collection star)
      exact .inr (String.toList_injective same).symm
  · have same := action.resolve_left own.permission.name_plain.2
    exact (Permission.name_inj.mp (String.toList_injective same)).symm

/-- A granted scope is matched with what is required segment by segment, in one way only. It
covers a demand exactly if it is cut into segments for the system, the service, the database,
the collection and the action that stand for those required, and for fixed names of the system
and the service this cut is the same for all demands. So different demands require different
scopes, and the dots in the name of a collection do not let the scope of one database,
collection or action cover another. -/
theorem granted_scope_unambiguous (root : ScopeRoot) :
    (∀ granted demand, covers granted (root.required demand) = true ↔
        ∃ grant, root.Reads granted grant ∧ grant.Admits demand) ∧
      (∀ granted grant, root.Reads granted grant → ∀ demand,
        (covers granted (root.required demand) = true ↔ grant.Admits demand)) ∧
      Function.Injective root.required ∧
      ∀ own other, covers (root.required own) (root.required other) = true →
        (own.database = "*" ∨ other.database = own.database) ∧
          (['*'] ∈ Text.pieces '.' own.collection.toList ∨ other.collection = own.collection) ∧
          other.permission = own.permission :=
  ⟨covers_required_iff, fun _ _ read => read.covers_iff, root.required_injective,
    fun _ _ => confined_of_covers⟩

end ScopeRoot

end DocumentGateway
