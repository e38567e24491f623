import Mathlib.Data.Finset.Basic
import Mathlib.Data.Finset.Lattice.Lemmas

/-!
# Ledgers of owned resources

A program takes resources and gives them back.  The ledger keeps the set of the
resources held, and refuses a deed that makes no sense with them: to take one
twice, to use or to give back one that is not held, or to give one back that a
running thread still works with.  Deeds are judged by small footprints: the
frame rule carries what they do not mention.
-/

namespace K4W.Library

universe u v

/-- What a call does with a resource; `clear` removes a name whether it is held or not. -/
inductive Deed (Resource : Type u) where
  | take (resource : Resource)
  | use (resource : Resource)
  | give (resource : Resource)
  | clear (resource : Resource)

namespace Ownership

/-! ## Homes -/

section Homes

variable {Resource : Type u} {Home : Type v} (home : Resource → Home)

/-- The deed touches a resource of these homes, and so do the users of one that is given back. -/
def AtHome (users : Resource → List Resource) (homes : List Home) : Deed Resource → Prop
  | .take resource | .use resource => home resource ∈ homes
  | .give resource | .clear resource =>
      home resource ∈ homes ∧ ∀ user ∈ users resource, home user ∈ homes

instance [DecidableEq Home] (users : Resource → List Resource) (homes : List Home)
    (deed : Deed Resource) : Decidable (AtHome home users homes deed) :=
  match deed with
  | .take resource | .use resource => inferInstanceAs (Decidable (home resource ∈ homes))
  | .give resource | .clear resource =>
      inferInstanceAs (Decidable (home resource ∈ homes ∧
        ∀ user ∈ users resource, home user ∈ homes))

def StaysIn (users : Resource → List Resource) (homes : List Home)
    (deeds : List (Deed Resource)) : Prop :=
  ∀ deed ∈ deeds, AtHome home users homes deed

instance [DecidableEq Home] (users : Resource → List Resource) (homes : List Home)
    (deeds : List (Deed Resource)) : Decidable (StaysIn home users homes deeds) :=
  inferInstanceAs (Decidable (∀ deed ∈ deeds, AtHome home users homes deed))

/-- Nothing of the set is at the homes. -/
def Elsewhere (homes : List Home) (extra : Finset Resource) : Prop :=
  ∀ resource ∈ extra, home resource ∉ homes

instance [DecidableEq Home] (homes : List Home) (extra : Finset Resource) :
    Decidable (Elsewhere home homes extra) :=
  inferInstanceAs (Decidable (∀ resource ∈ extra, home resource ∉ homes))

variable {home} {homes : List Home}

theorem StaysIn.append {users : Resource → List Resource} {front back : List (Deed Resource)}
    (hfront : StaysIn home users homes front) (hback : StaysIn home users homes back) :
    StaysIn home users homes (front ++ back) := by
  intro deed hmem
  rcases List.mem_append.mp hmem with hmem | hmem
  · exact hfront deed hmem
  · exact hback deed hmem

theorem StaysIn.mono {users : Resource → List Resource} {more : List Home}
    {deeds : List (Deed Resource)} (hstays : StaysIn home users homes deeds)
    (hsub : homes ⊆ more) : StaysIn home users more deeds := by
  intro deed hmem
  have hdeed := hstays deed hmem
  cases deed with
  | take resource | use resource => exact hsub hdeed
  | give resource | clear resource => exact ⟨hsub hdeed.1, fun user huser => hsub (hdeed.2 user huser)⟩

theorem Elsewhere.empty : Elsewhere home homes ∅ :=
  fun _ hmem => absurd hmem (Finset.notMem_empty _)

theorem Elsewhere.mono {extra : Finset Resource} (helse : Elsewhere home homes extra)
    {fewer : List Home} (hsub : fewer ⊆ homes) : Elsewhere home fewer extra :=
  fun resource hmem hhome => helse resource hmem (hsub hhome)

theorem notMem_of_home {extra : Finset Resource} (hextra : Elsewhere home homes extra)
    {resource : Resource} (hhome : home resource ∈ homes) : resource ∉ extra :=
  fun hmem => hextra resource hmem hhome

theorem Elsewhere.union [DecidableEq Resource] {first second : Finset Resource}
    (hfirst : Elsewhere home homes first) (hsecond : Elsewhere home homes second) :
    Elsewhere home homes (first ∪ second) := by
  intro resource hmem
  rcases Finset.mem_union.mp hmem with hmem | hmem
  · exact hfirst resource hmem
  · exact hsecond resource hmem

end Homes

/-! ## The ledger -/

variable {Resource : Type u} [DecidableEq Resource]

section Ledger

variable (users : Resource → List Resource)

/-- No user of the resource is held. -/
def Idle (held : Finset Resource) (resource : Resource) : Prop :=
  ∀ user ∈ users resource, user ∉ held

instance (held : Finset Resource) (resource : Resource) : Decidable (Idle users held resource) :=
  inferInstanceAs (Decidable (∀ user ∈ users resource, user ∉ held))

/-- The ledger after a deed, unless it refuses the deed. -/
def enter (held : Finset Resource) : Deed Resource → Option (Finset Resource)
  | .take resource => if resource ∈ held then none else some (insert resource held)
  | .use resource => if resource ∈ held then some held else none
  | .give resource =>
      if resource ∈ held ∧ Idle users held resource then some (held.erase resource) else none
  | .clear resource => if Idle users held resource then some (held.erase resource) else none

def after (held : Finset Resource) : List (Deed Resource) → Option (Finset Resource)
  | [] => some held
  | deed :: rest => (enter users held deed).bind fun next => after next rest

/-- The deeds are accepted, and lead from one ledger to the other. -/
def Leads (held : Finset Resource) (deeds : List (Deed Resource)) (last : Finset Resource) :
    Prop :=
  after users held deeds = some last

instance (held : Finset Resource) (deeds : List (Deed Resource)) (last : Finset Resource) :
    Decidable (Leads users held deeds last) :=
  inferInstanceAs (Decidable (_ = _))

theorem after_append (held : Finset Resource) (front back : List (Deed Resource)) :
    after users held (front ++ back) =
      (after users held front).bind fun next => after users next back := by
  induction front generalizing held with
  | nil => rfl
  | cons deed rest ih =>
      rw [List.cons_append, after, after]
      cases enter users held deed with
      | none => rfl
      | some next => exact ih next

end Ledger

variable {users : Resource → List Resource}

theorem Leads.nil (held : Finset Resource) : Leads users held [] held :=
  rfl

theorem Leads.append {held middle last : Finset Resource} {front back : List (Deed Resource)}
    (hfront : Leads users held front middle) (hback : Leads users middle back last) :
    Leads users held (front ++ back) last := by
  rw [Leads, after_append, hfront]
  exact hback

/-- A deed that is refused, whatever comes after it. -/
theorem refuses_append {held middle : Finset Resource} {front back : List (Deed Resource)}
    (hfront : Leads users held front middle) (hback : after users middle back = none) :
    after users held (front ++ back) = none := by
  rw [after_append, hfront]
  exact hback

/-- Deeds that only use what is held change nothing, however often they are done. -/
theorem Leads.uses {held : Finset Resource} {resources : List Resource}
    (hheld : ∀ resource ∈ resources, resource ∈ held) :
    Leads users held (resources.map .use) held := by
  induction resources with
  | nil => rfl
  | cons resource rest ih =>
      have hrest := ih fun other hmem => hheld other (List.mem_cons_of_mem _ hmem)
      rw [Leads, List.map_cons, after, enter, if_pos (hheld resource List.mem_cons_self)]
      exact hrest

/-- A refusal stands, whatever comes after it. -/
theorem refused_append {held : Finset Resource} {front : List (Deed Resource)}
    (hfront : after users held front = none) (back : List (Deed Resource)) :
    after users held (front ++ back) = none := by
  rw [after_append, hfront]
  rfl

/-! ## The frame rule -/

section Frame

variable {Home : Type v} {home : Resource → Home} {homes : List Home}

theorem idle_union {held extra : Finset Resource} (hextra : Elsewhere home homes extra)
    {resource : Resource} (husers : ∀ user ∈ users resource, home user ∈ homes) :
    Idle users (held ∪ extra) resource ↔ Idle users held resource := by
  refine forall₂_congr fun user hmem => not_congr ?_
  rw [Finset.mem_union, or_iff_left (notMem_of_home hextra (husers user hmem))]

/-- What is held at the end was held at the start, or has been taken at one of the homes. -/
theorem Leads.held_or_home {held last : Finset Resource} {deeds : List (Deed Resource)}
    (hleads : Leads users held deeds last) (hstays : StaysIn home users homes deeds)
    {resource : Resource} (hmem : resource ∈ last) : resource ∈ held ∨ home resource ∈ homes := by
  induction deeds generalizing held with
  | nil =>
      cases hleads
      exact .inl hmem
  | cons deed rest ih =>
      obtain ⟨next, henter, hrest⟩ := Option.bind_eq_some_iff.mp hleads
      have hdeed := hstays deed List.mem_cons_self
      have hnext := ih hrest fun other hother => hstays other (List.mem_cons_of_mem _ hother)
      refine hnext.elim (fun hheld => ?_) .inr
      cases deed with
      | take other =>
          simp only [enter, Option.ite_none_left_eq_some, Option.some.injEq] at henter
          rw [← henter.2] at hheld
          rcases Finset.mem_insert.mp hheld with rfl | hheld
          · exact .inr hdeed
          · exact .inl hheld
      | use other =>
          simp only [enter, Option.ite_none_right_eq_some, Option.some.injEq] at henter
          exact .inl (henter.2 ▸ hheld)
      | give other | clear other =>
          simp only [enter, Option.ite_none_right_eq_some, Option.some.injEq] at henter
          exact .inl (Finset.mem_of_mem_erase (henter.2 ▸ hheld))

/-- One deed does to the larger ledger what it does to the smaller one. -/
theorem enter_union {held extra : Finset Resource} (hextra : Elsewhere home homes extra)
    {deed : Deed Resource} (hstay : AtHome home users homes deed) :
    enter users (held ∪ extra) deed = (enter users held deed).map (· ∪ extra) := by
  have hmem : ∀ {resource : Resource}, home resource ∈ homes →
      (resource ∈ held ∪ extra ↔ resource ∈ held) := fun hhome => by
    rw [Finset.mem_union, or_iff_left (notMem_of_home hextra hhome)]
  have herase : ∀ {resource : Resource}, home resource ∈ homes →
      (held ∪ extra).erase resource = held.erase resource ∪ extra := fun hhome => by
    rw [Finset.erase_union_distrib, Finset.erase_eq_of_notMem (notMem_of_home hextra hhome)]
  cases deed with
  | take resource =>
      simp only [enter, hmem hstay]
      split
      · rfl
      · rw [Option.map_some, Finset.insert_union]
  | use resource =>
      simp only [enter, hmem hstay]
      split <;> rfl
  | give resource =>
      simp only [enter, hmem hstay.1, idle_union hextra hstay.2, herase hstay.1]
      split <;> rfl
  | clear resource =>
      simp only [enter, idle_union hextra hstay.2, herase hstay.1]
      split <;> rfl

/-- The frame rule: what is elsewhere stays held, and makes no deed possible. -/
theorem after_union {held extra : Finset Resource} {deeds : List (Deed Resource)}
    (hstays : StaysIn home users homes deeds) (hextra : Elsewhere home homes extra) :
    after users (held ∪ extra) deeds = (after users held deeds).map (· ∪ extra) := by
  induction deeds generalizing held with
  | nil => rfl
  | cons deed rest ih =>
      have hrest := fun next => @ih next fun other hmem => hstays other (List.mem_cons_of_mem _ hmem)
      rw [after, after, enter_union hextra (hstays deed List.mem_cons_self)]
      cases enter users held deed with
      | none => rfl
      | some next => exact hrest next

theorem Leads.frame {held last : Finset Resource} {deeds : List (Deed Resource)}
    (hleads : Leads users held deeds last) (hstays : StaysIn home users homes deeds)
    {extra : Finset Resource} (hextra : Elsewhere home homes extra) :
    Leads users (held ∪ extra) deeds (last ∪ extra) := by
  rw [Leads, after_union hstays hextra, hleads]
  rfl

/-- What is elsewhere does not help deeds that are refused. -/
theorem refused_frame {deeds : List (Deed Resource)} (hrefused : after users ∅ deeds = none)
    (hstays : StaysIn home users homes deeds) {extra : Finset Resource}
    (hextra : Elsewhere home homes extra) : after users extra deeds = none := by
  rw [← Finset.empty_union extra, after_union hstays hextra, hrefused]
  rfl

/-- Further deeds on a part of what is held. -/
theorem Leads.thenOn {held part others next : Finset Resource} {front back : List (Deed Resource)}
    (hfront : Leads users held front (part ∪ others)) (hback : Leads users part back next)
    (hstays : StaysIn home users homes back) (hothers : Elsewhere home homes others) :
    Leads users held (front ++ back) (next ∪ others) :=
  hfront.append (hback.frame hstays hothers)

/-- Further deeds that need nothing of what is held. -/
theorem Leads.thenAlso {held others next : Finset Resource} {front back : List (Deed Resource)}
    (hfront : Leads users held front others) (hback : Leads users ∅ back next)
    (hstays : StaysIn home users homes back) (hothers : Elsewhere home homes others) :
    Leads users held (front ++ back) (next ∪ others) := by
  rw [← Finset.empty_union others] at hfront
  exact hfront.thenOn hback hstays hothers

end Frame

end Ownership

end K4W.Library
