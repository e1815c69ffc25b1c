import MazeAgent.Fault
import Mathlib.Tactic

/-!
# Checked computations and their loops

A computation that returns has a value and no fault. A loop returns when each of its steps does,
and what the steps keep holds at its end. A filter that returns has looked at every item, and
keeps some of them in their order.

**Results.**
* `Checked.Returns`: a computation ends without a fault, and its value has a property.
* `Checked.returns_foldlM`, `Checked.keeps_foldlM`: what a property that is kept says of a loop.
* `Checked.mem_mapM_iff`, `Checked.foldlM_eq_ok`, `Checked.anyM_eq_ok`: what a loop finds for the
  items of a list.
* `Checked.exists_of_filterMapM`, `Checked.pairwise_filterMapM`, `Checked.length_filterMapM_le`:
  what a filter does.
* `Checked.Agrees`: two computations end alike; `Checked.agrees_foldlM` for loops.
-/

namespace MazeAgent

namespace Checked

variable {α β : Type}

/-! ## Computations that return -/

/-- A computation ends without a fault, and its value has a property. -/
def Returns (computation : Checked α) (post : α → Prop) : Prop :=
  ∃ value, computation = .ok value ∧ post value

/-- A computation ends without a fault. -/
abbrev Succeeds (computation : Checked α) : Prop := computation.Returns (fun _ => True)

theorem returns_ok {value : α} {post : α → Prop} (h : post value) :
    Returns (.ok value) post :=
  ⟨value, rfl, h⟩

theorem succeeds_ok (value : α) : Succeeds (.ok value) := returns_ok trivial

theorem not_succeeds_error (fault : Fault) : ¬ Succeeds (.error fault : Checked α) := by
  rintro ⟨value, hvalue, -⟩
  cases hvalue

theorem Returns.mono {computation : Checked α} {post weaker : α → Prop}
    (h : computation.Returns post) (hweaker : ∀ value, post value → weaker value) :
    computation.Returns weaker := by
  obtain ⟨value, hvalue, hpost⟩ := h
  exact ⟨value, hvalue, hweaker value hpost⟩

theorem Returns.succeeds {computation : Checked α} {post : α → Prop}
    (h : computation.Returns post) : computation.Succeeds :=
  h.mono (fun _ _ => trivial)

theorem Returns.bind {first : Checked α} {next : α → Checked β} {middle : α → Prop}
    {post : β → Prop} (hfirst : first.Returns middle)
    (hnext : ∀ value, middle value → (next value).Returns post) :
    (first >>= next).Returns post := by
  obtain ⟨value, rfl, hmiddle⟩ := hfirst
  exact hnext value hmiddle

theorem Returns.bind_ok {first : Checked α} {middle : α → Prop} {image : α → β}
    (h : first.Returns middle) : Succeeds (first >>= fun value => .ok (image value)) :=
  h.bind (fun _ _ => succeeds_ok _)

theorem exists_of_map_eq_ok {image : α → β} {computation : Checked α} {value : β}
    (h : computation.map image = .ok value) :
    ∃ item, computation = .ok item ∧ image item = value := by
  cases computation with
  | error fault => cases h
  | ok item => exact ⟨item, rfl, Except.ok.inj h⟩

/-! ## Loops -/

/-- A fold returns when every step keeps a property. -/
theorem returns_foldlM {step : β → α → Checked β} {post : β → Prop} {items : List α} {first : β}
    (hfirst : post first)
    (hstep : ∀ value, ∀ item ∈ items, post value → (step value item).Returns post) :
    (items.foldlM step first).Returns post := by
  induction items generalizing first with
  | nil => exact returns_ok hfirst
  | cons item rest ih =>
      rw [List.foldlM_cons]
      apply (hstep first item List.mem_cons_self hfirst).bind
      intro value hvalue
      exact ih hvalue (fun value item hitem => hstep value item (List.mem_cons_of_mem _ hitem))

/-- What every step of a loop keeps holds at its end. -/
theorem keeps_foldlM {step : β → α → Checked β} {keeps : β → Prop} {items : List α}
    {first last : β} (hstep : ∀ value item later, keeps value → step value item = .ok later →
      keeps later)
    (h : items.foldlM step first = .ok last) (hfirst : keeps first) : keeps last := by
  induction items generalizing first with
  | nil =>
      cases h
      exact hfirst
  | cons item rest ih =>
      rw [List.foldlM_cons, bind_eq_ok_iff] at h
      obtain ⟨middle, hmiddle, h⟩ := h
      exact ih h (hstep first item middle hfirst hmiddle)

theorem returns_mapM {image : α → Checked β} {post : β → Prop} {items : List α}
    (h : ∀ item ∈ items, (image item).Returns post) :
    (items.mapM image).Returns (fun values => ∀ value ∈ values, post value) := by
  induction items with
  | nil => exact returns_ok (by simp)
  | cons item rest ih =>
      rw [List.mapM_cons]
      apply (h item List.mem_cons_self).bind
      intro value hvalue
      apply (ih (fun item hitem => h item (List.mem_cons_of_mem _ hitem))).bind
      intro values hvalues
      exact returns_ok (List.forall_mem_cons.mpr ⟨hvalue, hvalues⟩)

theorem succeeds_mapM {image : α → Checked β} {items : List α}
    (h : ∀ item ∈ items, (image item).Succeeds) : (items.mapM image).Succeeds :=
  (returns_mapM h).succeeds

theorem mapM_cons_eq_ok_iff {image : α → Checked β} {first : α} {rest : List α}
    {values : List β} :
    (first :: rest).mapM image = .ok values ↔
      ∃ found others, image first = .ok found ∧ rest.mapM image = .ok others ∧
        values = found :: others := by
  rw [List.mapM_cons, bind_eq_ok_iff]
  constructor
  · rintro ⟨found, hfound, h⟩
    obtain ⟨others, hothers, hvalues⟩ := bind_eq_ok_iff.mp h
    cases hvalues
    exact ⟨found, others, hfound, hothers, rfl⟩
  · rintro ⟨found, others, hfound, hothers, rfl⟩
    exact ⟨found, hfound, bind_eq_ok_iff.mpr ⟨others, hothers, rfl⟩⟩

/-- What a loop that returns has found for the items of a list. -/
theorem mem_mapM_iff {image : α → Checked β} {items : List α} {values : List β}
    (h : items.mapM image = .ok values) (value : β) :
    value ∈ values ↔ ∃ item ∈ items, image item = .ok value := by
  induction items generalizing values with
  | nil =>
      cases h
      simp
  | cons first rest ih =>
      obtain ⟨found, others, hfound, hothers, rfl⟩ := mapM_cons_eq_ok_iff.mp h
      simp [ih hothers, hfound, eq_comm]

/-- A loop that returns has found a value for every item. -/
theorem exists_of_mapM {image : α → Checked β} {items : List α} {values : List β}
    (h : items.mapM image = .ok values) {item : α} (hitem : item ∈ items) :
    ∃ value, image item = .ok value := by
  induction items generalizing values with
  | nil => cases hitem
  | cons first rest ih =>
      obtain ⟨found, others, hfound, hothers, -⟩ := mapM_cons_eq_ok_iff.mp h
      rcases List.mem_cons.mp hitem with rfl | hitem
      · exact ⟨found, hfound⟩
      · exact ih hothers hitem

/-- A loop that keeps each item beside its value keeps all of them in their order. -/
theorem map_fst_of_mapM {image : α → Checked β} {items : List α} {pairs : List (α × β)}
    (h : items.mapM (fun item => do return (item, ← image item)) = .ok pairs) :
    pairs.map Prod.fst = items := by
  induction items generalizing pairs with
  | nil =>
      cases h
      rfl
  | cons first rest ih =>
      obtain ⟨pair, others, hpair, hothers, rfl⟩ := mapM_cons_eq_ok_iff.mp h
      obtain ⟨value, -, hvalue⟩ := bind_eq_ok_iff.mp hpair
      cases hvalue
      rw [List.map_cons, ih hothers]

/-- A fold over what is found item by item is a fold over all that is found. -/
theorem foldlM_eq_ok {γ : Type} {image : α → Checked β} {step : γ → β → γ} {items : List α}
    {first last : γ}
    (h : items.foldlM (fun value item => do return step value (← image item)) first = .ok last) :
    ∃ values, items.mapM image = .ok values ∧ values.foldl step first = last := by
  induction items generalizing first with
  | nil => exact ⟨[], rfl, Except.ok.inj h⟩
  | cons item rest ih =>
      rw [List.foldlM_cons, bind_eq_ok_iff] at h
      obtain ⟨next, hnext, h⟩ := h
      obtain ⟨value, hvalue, hstep⟩ := bind_eq_ok_iff.mp hnext
      obtain ⟨values, hvalues, hlast⟩ := ih h
      obtain rfl := Except.ok.inj hstep
      exact ⟨value :: values, mapM_cons_eq_ok_iff.mpr ⟨value, values, hvalue, hvalues, rfl⟩, hlast⟩

theorem succeeds_anyM {test : α → Checked Bool} {items : List α}
    (h : ∀ item ∈ items, (test item).Succeeds) : (items.anyM test).Succeeds := by
  induction items with
  | nil => exact succeeds_ok false
  | cons item rest ih =>
      rw [List.anyM]
      apply (h item List.mem_cons_self).bind
      intro found _
      cases found with
      | true => exact succeeds_ok true
      | false => exact ih (fun item hitem => h item (List.mem_cons_of_mem _ hitem))

/-- A search that returns has found out whether some item passes its test. -/
theorem anyM_eq_ok {test : α → Checked Bool} {items : List α} {found : Bool}
    (h : items.anyM test = .ok found) :
    found = true ↔ ∃ item ∈ items, test item = .ok true := by
  induction items with
  | nil =>
      cases h
      simp
  | cons first rest ih =>
      rw [List.anyM, bind_eq_ok_iff] at h
      obtain ⟨passed, hpassed, h⟩ := h
      cases passed with
      | true =>
          cases h
          exact iff_of_true rfl ⟨first, List.mem_cons_self, hpassed⟩
      | false =>
          rw [ih h]
          simp [hpassed]

/-! ## Filters -/

theorem succeeds_filterMapM {keep : α → Checked (Option β)} {items : List α}
    (h : ∀ item ∈ items, (keep item).Succeeds) : (items.filterMapM keep).Succeeds := by
  induction items with
  | nil => exact succeeds_ok []
  | cons item rest ih =>
      obtain ⟨found, hfound, -⟩ := h item List.mem_cons_self
      obtain ⟨others, hothers, -⟩ := ih (fun item hitem => h item (List.mem_cons_of_mem _ hitem))
      exact ⟨_, filterMapM_cons_eq_ok_iff.mpr ⟨found, others, hfound, hothers, rfl⟩, trivial⟩

theorem filterMapM_eq_ok {keep : α → Checked (Option β)} {kept : α → Option β}
    (h : ∀ item, keep item = .ok (kept item)) (items : List α) :
    items.filterMapM keep = .ok (items.filterMap kept) := by
  induction items with
  | nil => rfl
  | cons first rest ih =>
      refine filterMapM_cons_eq_ok_iff.mpr ⟨kept first, _, h first, ih, ?_⟩
      cases hfirst : kept first <;> simp [hfirst]

section Kept

variable {keep : α → Checked (Option β)} {items : List α} {kept : List β}

theorem exists_of_filterMapM (h : items.filterMapM keep = .ok kept) {item : α}
    (hitem : item ∈ items) : ∃ found, keep item = .ok found := by
  induction items generalizing kept with
  | nil => cases hitem
  | cons first rest ih =>
      obtain ⟨found, others, hfound, hothers, -⟩ := filterMapM_cons_eq_ok_iff.mp h
      rcases List.mem_cons.mp hitem with rfl | hitem
      · exact ⟨found, hfound⟩
      · exact ih hothers hitem

theorem length_filterMapM_le (h : items.filterMapM keep = .ok kept) :
    kept.length ≤ items.length := by
  induction items generalizing kept with
  | nil =>
      cases h
      exact Nat.le_refl 0
  | cons first rest ih =>
      obtain ⟨found, others, -, hothers, rfl⟩ := filterMapM_cons_eq_ok_iff.mp h
      have hlength := ih hothers
      cases found with
      | none => exact hlength.trans (Nat.le_succ _)
      | some value => exact Nat.succ_le_succ hlength

/-- What a filter keeps stays in order. -/
theorem pairwise_filterMapM {before : α → α → Prop} {after : β → β → Prop}
    (hitems : items.Pairwise before)
    (hkeep : ∀ a b x y, before a b → keep a = .ok (some x) → keep b = .ok (some y) → after x y)
    (h : items.filterMapM keep = .ok kept) : kept.Pairwise after := by
  induction items generalizing kept with
  | nil =>
      cases h
      exact List.Pairwise.nil
  | cons first rest ih =>
      obtain ⟨hfirst, hrest⟩ := List.pairwise_cons.mp hitems
      obtain ⟨found, others, hfound, hothers, rfl⟩ := filterMapM_cons_eq_ok_iff.mp h
      cases found with
      | none => exact ih hrest hothers
      | some value =>
          refine List.pairwise_cons.mpr ⟨?_, ih hrest hothers⟩
          intro other hother
          obtain ⟨item, hitem, hkept⟩ := (mem_filterMapM_iff hothers other).mp hother
          exact hkeep first item value other (hfirst item hitem) hfound hkept

end Kept

/-! ## Two computations side by side -/

/-- Two computations end alike: with the same fault, or with values that are related. -/
inductive Agrees (related : α → β → Prop) : Checked α → Checked β → Prop
  | ok {a : α} {b : β} (h : related a b) : Agrees related (.ok a) (.ok b)
  | error (fault : Fault) : Agrees related (.error fault) (.error fault)

section Agrees

variable {γ δ : Type} {related : α → β → Prop} {first : Checked α} {second : Checked β}

theorem Agrees.of_eq {related : α → α → Prop} {first second : Checked α} (h : first = second)
    (hself : ∀ value, related value value) : Agrees related first second := by
  subst h
  cases first with
  | error fault => exact .error fault
  | ok value => exact .ok (hself value)

theorem Agrees.of_succeeds (hfirst : first.Succeeds) (hsecond : second.Succeeds)
    (h : ∀ a b, related a b) : Agrees related first second := by
  obtain ⟨a, rfl, -⟩ := hfirst
  obtain ⟨b, rfl, -⟩ := hsecond
  exact .ok (h a b)

theorem Agrees.bind {after : γ → δ → Prop} {next : α → Checked γ} {other : β → Checked δ}
    (h : Agrees related first second)
    (hnext : ∀ a b, related a b → Agrees after (next a) (other b)) :
    Agrees after (first >>= next) (second >>= other) := by
  cases h with
  | error fault => exact .error fault
  | ok hrelated => exact hnext _ _ hrelated

/-- Two loops over the same list end alike when their steps do. -/
theorem agrees_foldlM {step : α → γ → Checked α} {other : β → γ → Checked β} {items : List γ}
    {a : α} {b : β} (h : related a b)
    (hstep : ∀ a b item, related a b → Agrees related (step a item) (other b item)) :
    Agrees related (items.foldlM step a) (items.foldlM other b) := by
  induction items generalizing a b with
  | nil => exact .ok h
  | cons item rest ih =>
      rw [List.foldlM_cons, List.foldlM_cons]
      exact (hstep a b item h).bind (fun _ _ hlater => ih hlater)

theorem Agrees.succeeds_iff (h : Agrees related first second) :
    first.Succeeds ↔ second.Succeeds := by
  cases h with
  | error fault => exact iff_of_false (not_succeeds_error fault) (not_succeeds_error fault)
  | @ok a b _ => exact iff_of_true (succeeds_ok a) (succeeds_ok b)

end Agrees

end Checked
end MazeAgent
