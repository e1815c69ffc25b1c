import MazeAgent.Config.Overlay
import MazeAgent.Proofs.Document.Shape

/-!
# Settings of records with defaults

A document replaces exactly the settings of a record that it names. A record is made of members that
are written apart from one another, so what a document says of a record is what it says of the
members, and the same is true of a member that is a record itself.

**Results.**
* `Setting`, `Setting.Follows`: where a setting stands in a document, and what it is then.
* `Describes`: a shape and settings say all that a reader does.
* `Member`, `Lawful`: the members of a record, and that each is written apart from the others.
* `Lawful.describes`: the members describe how a record is overlaid with a document.
-/

namespace MazeAgent

/-! ## Settings -/

/-- A setting: the path of names under which it stands, how it is decoded, and where a value
has it. -/
structure Setting (α : Type) where
  path : List String
  {value : Type}
  decode : Document → Option value
  get : α → value

namespace Setting

variable {σ α : Type}

/-- The whole of a value. -/
def whole (decode : Document → Option α) : Setting α := ⟨[], decode, id⟩

/-- The setting of a member as one of the record around it. -/
def lift (name : String) (get : σ → α) (setting : Setting α) : Setting σ :=
  ⟨name :: setting.path, setting.decode, fun record => setting.get (get record)⟩

/-- The setting is what the document has in its place, or as before when there is nothing. -/
def Follows (setting : Setting α) (shape : Shape) (document : Document) (before after : α) : Prop :=
  match shape.at? setting.path document with
  | some found => setting.decode found = some (setting.get after)
  | none => setting.get after = setting.get before

variable {setting : Setting α} {shape : Shape} {document : Document} {before after other : α}

/-- What a document says of a setting leaves it no choice. -/
theorem Follows.get_eq (h : setting.Follows shape document before after)
    (hother : setting.Follows shape document before other) :
    setting.get other = setting.get after := by
  unfold Follows at h hother
  split at h
  · next found hfound =>
    rw [hfound] at hother
    exact Option.some.inj (hother.symm.trans h)
  · next hnone =>
    rw [hnone] at hother
    exact hother.trans h.symm

end Setting

/-- A shape and settings say all that a reader does: it replaces the settings that a document has,
there are no others, and it looks at nothing else. -/
structure Describes {α : Type} (shape : Shape) (settings : List (Setting α))
    (read : Document → α → Option α) : Prop where
  follows {document : Document} {before after : α} (h : read document before = some after) :
    ∀ setting ∈ settings, setting.Follows shape document before after
  eq_of_get {a b : α} (h : ∀ setting ∈ settings, setting.get a = setting.get b) : a = b
  covers : shape.Covers read

theorem describes_whole {α : Type} {shape : Shape} {decode : Document → Option α}
    (h : shape.Covers decode) :
    Describes shape [.whole decode] (fun document _ => decode document) where
  follows hread := List.forall_mem_singleton.mpr hread
  eq_of_get hget := hget _ List.mem_cons_self
  covers document other hchange := funext fun _ => h document other hchange

/-! ## Members of records -/

/-- A member of a record: its name, what a document says of it, and how the record has it. -/
structure Member (σ : Type) where
  name : String
  {value : Type}
  shape : Shape
  settings : List (Setting value)
  read : Document → value → Option value
  get : σ → value
  write : value → σ → σ
  describes : Describes shape settings read

namespace Member

variable {σ : Type}

/-- A member that a document replaces as a whole. -/
def whole {α : Type} (name : String) (decode : Document → Option α) {shape : Shape}
    (h : shape.Covers decode) (get : σ → α) (write : α → σ → σ) : Member σ :=
  ⟨name, shape, [.whole decode], fun document _ => decode document, get, write, describes_whole h⟩

/-- A member that is a plain value. -/
def plain {α : Type} (name : String) (decode : Document → Option α) (get : σ → α)
    (write : α → σ → σ) : Member σ :=
  whole name decode (Shape.covers_value decode) get write

/-- A member that is a record with defaults of its own. -/
def nested {α : Type} (name : String) {shape : Shape} {settings : List (Setting α)}
    {read : Document → α → Option α} (h : Describes shape settings read) (get : σ → α)
    (write : α → σ → σ) : Member σ :=
  ⟨name, shape, settings, read, get, write, h⟩

def slot (member : Member σ) : Slot σ := .nested member.name member.read member.get member.write

/-- To write one of two members is not to change the other. -/
def Apart (member other : Member σ) : Prop :=
  (∀ x record, member.get (other.write x record) = member.get record) ∧
    ∀ x record, other.get (member.write x record) = other.get record

/-- The names of the members, with their shapes. -/
def known (members : List (Member σ)) : List (String × Shape) :=
  members.map fun member => (member.name, member.shape)

/-- The settings of all members. -/
def allSettings (members : List (Member σ)) : List (Setting σ) :=
  members.flatMap fun member => member.settings.map (Setting.lift member.name member.get)

theorem lift_mem_allSettings {members : List (Member σ)} {member : Member σ}
    (hmember : member ∈ members) {setting : Setting member.value}
    (hsetting : setting ∈ member.settings) :
    setting.lift member.name member.get ∈ allSettings members :=
  List.mem_flatMap.mpr ⟨member, hmember, List.mem_map_of_mem hsetting⟩

end Member

/-- Members that make up a record, each apart from the others. -/
structure Lawful {σ : Type} (members : List (Member σ)) : Prop where
  nodup : (members.map Member.name).Nodup
  apart : members.Pairwise Member.Apart
  get_write : ∀ member ∈ members, ∀ x record, member.get (member.write x record) = x
  eq_of_get {a b : σ} (h : ∀ member ∈ members, member.get a = member.get b) : a = b

/-! ## Filling a record -/

namespace Member

variable {σ : Type} {members : List (Member σ)} {before after : σ}

/-- The record after the documents that are found for its members. -/
def fill (members : List (Member σ)) (found : String → Option Document) (record : σ) : Option σ :=
  Slot.fill (members.map slot) (members.map fun member => found member.name) record

/-- The record after the document of one member, if there is one. -/
def step (member : Member σ) (document? : Option Document) (record : σ) : Option σ :=
  match document? with
  | some document => member.slot.replace document record
  | none => some record

theorem fill_cons (member : Member σ) (members : List (Member σ))
    (found : String → Option Document) (record : σ) :
    fill (member :: members) found record =
      (member.step (found member.name) record).bind (fill members found) := by
  rw [fill, List.map_cons, List.map_cons]
  cases found member.name with
  | none => rfl
  | some document =>
      rw [Slot.fill, step]
      cases member.slot.replace document record with
      | none => rfl
      | some next => rfl

/-- A step writes what is read of the document, or nothing. -/
theorem step_eq_some {member : Member σ} {document? : Option Document}
    (h : member.step document? before = some after) :
    (document? = none ∧ after = before) ∨
      ∃ document x, document? = some document ∧
        member.read document (member.get before) = some x ∧ after = member.write x before := by
  cases document? with
  | none =>
      cases h
      exact Or.inl ⟨rfl, rfl⟩
  | some document =>
      obtain ⟨x, hread, rfl⟩ := Option.map_eq_some_iff.mp h
      exact Or.inr ⟨document, x, rfl, hread, rfl⟩

/-- A step leaves alone what its member does not write. -/
theorem get_step {α : Type} {get : σ → α} {member : Member σ} {document? : Option Document}
    (hspares : ∀ x record, get (member.write x record) = get record)
    (h : member.step document? before = some after) : get after = get before := by
  rcases step_eq_some h with ⟨-, rfl⟩ | ⟨document, x, -, -, rfl⟩
  · rfl
  · exact hspares x before

/-- What no member writes stays as it is. -/
theorem get_fill {α : Type} {get : σ → α} {found : String → Option Document}
    (hspares : ∀ member ∈ members, ∀ x record, get (member.write x record) = get record)
    (h : fill members found before = some after) : get after = get before := by
  induction members generalizing before with
  | nil =>
      cases h
      rfl
  | cons member members ih =>
      rw [fill_cons] at h
      obtain ⟨mid, hstep, hrest⟩ := Option.bind_eq_some_iff.mp h
      have hlater := ih (fun other hother => hspares other (List.mem_cons_of_mem _ hother)) hrest
      exact hlater.trans (get_step (hspares member List.mem_cons_self) hstep)

/-- Each member is what its reader makes of the document for it, whatever the other members are. -/
theorem read_of_fill {found : String → Option Document} (hapart : members.Pairwise Apart)
    (hwrite : ∀ member ∈ members, ∀ x record, member.get (member.write x record) = x)
    (h : fill members found before = some after) :
    ∀ member ∈ members,
      (found member.name = none ∧ member.get after = member.get before) ∨
        ∃ document, found member.name = some document ∧
          member.read document (member.get before) = some (member.get after) := by
  induction members generalizing before with
  | nil => exact List.forall_mem_nil _
  | cons member members ih =>
      rw [fill_cons] at h
      obtain ⟨mid, hstep, hrest⟩ := Option.bind_eq_some_iff.mp h
      obtain ⟨hfirst, hapart⟩ := List.pairwise_cons.mp hapart
      refine List.forall_mem_cons.mpr ⟨?_, fun other hother => ?_⟩
      · have hlater : member.get after = member.get mid :=
          get_fill (fun other hother => (hfirst other hother).1) hrest
        rw [hlater]
        rcases step_eq_some hstep with ⟨hnone, rfl⟩ | ⟨document, x, hsome, hread, rfl⟩
        · exact Or.inl ⟨hnone, rfl⟩
        · refine Or.inr ⟨document, hsome, ?_⟩
          rw [hread, hwrite member List.mem_cons_self]
      · rw [← get_step (hfirst other hother).2 hstep]
        exact ih hapart (fun one hone => hwrite one (List.mem_cons_of_mem _ hone)) hrest other
          hother

/-- Documents that every member reads alike fill the record alike. -/
theorem fill_congr {found other : String → Option Document}
    (h : ∀ member ∈ members,
      (found member.name).map member.read = (other member.name).map member.read)
    (record : σ) : fill members found record = fill members other record := by
  induction members generalizing record with
  | nil => rfl
  | cons member members ih =>
      have hstep : member.step (found member.name) record =
          member.step (other member.name) record := by
        have hmember := h member List.mem_cons_self
        cases hfound : found member.name with
        | none =>
            rw [hfound] at hmember
            rw [Option.map_eq_none_iff.mp hmember.symm]
        | some document =>
            rw [hfound] at hmember
            obtain ⟨document', hother, heq⟩ := Option.map_eq_some_iff.mp hmember.symm
            rw [hother]
            simp only [step, slot, Slot.nested, heq]
      have hrest := ih fun one hone => h one (List.mem_cons_of_mem _ hone)
      rw [fill_cons, fill_cons, hstep, funext hrest]

end Member

/-! ## Overlaying a record -/

section Overlay

variable {σ : Type} {members : List (Member σ)}

theorem map_fst_known (members : List (Member σ)) :
    (Member.known members).map Prod.fst = members.map Member.name := by
  rw [Member.known, List.map_map]
  rfl

theorem Lawful.nodup_known (h : Lawful members) :
    ((Member.known members).map Prod.fst).Nodup := by
  rw [map_fst_known]
  exact h.nodup

/-- A record that can be one is filled with what stands under the names of its members. -/
theorem Lawful.overlay_eq (h : Lawful members) (style : DocumentStyle) (document : Document)
    (record : σ) :
    overlay style (members.map Member.slot) document record =
      if document.isRecord style true members.length then
        Member.fill members (fun name => document.part? ((Member.known members).map Prod.fst) name)
          record
      else none := by
  have hnames : (members.map Member.slot).map Slot.name = members.map Member.name := by
    rw [List.map_map]
    rfl
  rw [overlay, hnames, Document.record?_eq h.nodup, map_fst_known, List.length_map, Member.fill,
    List.map_map]
  cases document.isRecord style true members.length with
  | false => rfl
  | true => rfl

/-- What a path under the name of a member leads to is what it leads to in the member. -/
theorem Lawful.at?_lift (h : Lawful members) {member : Member σ} (hmember : member ∈ members)
    (path : List String) (document : Document) :
    (Shape.record (Member.known members)).at? (member.name :: path) document =
      (document.part? ((Member.known members).map Prod.fst) member.name).bind
        (member.shape.at? path) := by
  rw [Shape.at?, Shape.lookup_of_mem h.nodup_known (List.mem_map_of_mem hmember)]
  cases document.part? ((Member.known members).map Prod.fst) member.name with
  | none => rfl
  | some found => rfl

/-- A record is overlaid with a document member by member. -/
theorem Lawful.describes (h : Lawful members) (style : DocumentStyle) :
    Describes (.record (Member.known members)) (Member.allSettings members)
      (overlay style (members.map Member.slot)) where
  follows {document before after} hover := by
    rw [h.overlay_eq] at hover
    split at hover
    · intro lifted hlifted
      obtain ⟨member, hmember, hmem⟩ := List.mem_flatMap.mp hlifted
      obtain ⟨setting, hsetting, rfl⟩ := List.mem_map.mp hmem
      unfold Setting.Follows
      rw [Setting.lift, h.at?_lift hmember]
      rcases Member.read_of_fill h.apart h.get_write hover member hmember with
        ⟨hnone, hsame⟩ | ⟨found, hfound, hread⟩
      · rw [hnone]
        exact congrArg setting.get hsame
      · rw [hfound]
        exact member.describes.follows hread setting hsetting
    · cases hover
  eq_of_get {a b} hget := by
    refine h.eq_of_get fun member hmember => member.describes.eq_of_get fun setting hsetting => ?_
    exact hget _ (Member.lift_mem_allSettings hmember hsetting)
  covers document other hchange := by
    funext record
    rw [h.overlay_eq, h.overlay_eq, hchange.isRecord_eq]
    congr 1
    refine Member.fill_congr (fun member hmember => ?_) record
    exact member.describes.covers.map_eq
      (hchange.part? h.nodup_known (List.mem_map_of_mem hmember))

end Overlay

end MazeAgent
