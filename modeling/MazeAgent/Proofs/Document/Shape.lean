import MazeAgent.Proofs.Document.Value
import Mathlib.Logic.Relation

/-!
# What a reader looks at

A reader of records finds their parts by name, whatever the order of the names and whatever else is
there. The shape of what it reads says which names it knows, and so which changes of a document are
none of its concern.

**Results.**
* `Document.part?`: the part of a record under a name; `Document.record?_eq`: all parts.
* `Shape`, `Shape.at?`: what is read of a document, and what a path of names leads to.
* `Shape.Immaterial`, `Shape.Alike`: documents that differ in what is not looked at.
* `Shape.Covers`: a reader looks at nothing else than its shape says; `Shape.Covers.eq_of_alike`.
-/

namespace MazeAgent
namespace Document

/-! ## Parts of records -/

/-- The part of a record under one of its names; a list has its parts in the order of the names. -/
def part? (names : List String) (name : String) : Document → Option Document
  | table fields => field? fields name
  | list items => items[names.idxOf name]?
  | _ => none

/-- Whether a document can be a record with a number of parts. -/
def isRecord (style : DocumentStyle) (mayEndEarly : Bool) (count : Nat) : Document → Bool
  | table _ => true
  | moment _ => true
  | list items =>
      !((items.length < count && !mayEndEarly) ||
        (count < items.length && !style.allowsExtraItems))
  | _ => false

/-- The parts of a record are what it has under each name. -/
theorem record?_eq {names : List String} (h : names.Nodup) (style : DocumentStyle)
    (mayEndEarly : Bool) (document : Document) :
    document.record? style mayEndEarly names =
      if document.isRecord style mayEndEarly names.length then
        some (names.map fun name => document.part? names name)
      else none := by
  cases document with
  | table fields => rfl
  | moment value => rfl
  | list items =>
      have hparts : (List.range names.length).map (fun i => items[i]?) =
          names.map fun name => (list items).part? names name := by
        refine List.ext_getElem (by simp) fun i _ hi => ?_
        rw [List.length_map] at hi
        simp [part?, h.idxOf_getElem]
      rw [record?, isRecord, hparts]
      cases hlength : (items.length < names.length && !mayEndEarly) ||
          (names.length < items.length && !style.allowsExtraItems)
      · rfl
      · rfl
  | _ => rfl

theorem field?_append (fields others : List (String × Document)) (name : String) :
    field? (fields ++ others) name = (field? others name).or (field? fields name) := by
  simp only [field?, List.reverse_append, List.find?_append, Option.map_or]

theorem field?_cons (fields : List (String × Document)) (key name : String) (value : Document) :
    field? ((key, value) :: fields) name =
      (field? fields name).or (if key = name then some value else none) := by
  have hone : field? [(key, value)] name = if key = name then some value else none := by
    by_cases hkey : key = name
    · simp [field?, hkey]
    · simp [field?, hkey]
  rw [← List.singleton_append, field?_append, hone]

theorem field?_eq_some_iff {fields : List (String × Document)} (h : (fields.map Prod.fst).Nodup)
    {name : String} {value : Document} :
    field? fields name = some value ↔ (name, value) ∈ fields := by
  constructor
  · intro hfield
    obtain ⟨⟨key, found⟩, hfind, rfl⟩ := Option.map_eq_some_iff.mp hfield
    have hkey : key = name := by simpa using List.find?_some hfind
    exact hkey ▸ List.mem_reverse.mp (List.mem_of_find?_eq_some hfind)
  · exact field?_of_mem h

theorem field?_perm {fields others : List (String × Document)} (h : (fields.map Prod.fst).Nodup)
    (hperm : fields.Perm others) (name : String) : field? fields name = field? others name := by
  have hothers : (others.map Prod.fst).Nodup := (hperm.map Prod.fst).nodup_iff.mp h
  refine Option.ext fun value => ?_
  rw [field?_eq_some_iff h, field?_eq_some_iff hothers, hperm.mem_iff]

theorem field?_unknown {before after : List (String × Document)} {key name : String}
    {extra : Document} (h : key ≠ name) :
    field? (before ++ (key, extra) :: after) name = field? (before ++ after) name := by
  rw [field?_append, field?_append, field?_cons, if_neg h, Option.or_none]

end Document

/-! ## Shapes -/

/-- What a reader looks at in a document. -/
inductive Shape where
  /-- All of it. -/
  | value
  /-- The items of a list. -/
  | list (item : Shape)
  /-- The parts of a record under known names. -/
  | record (known : List (String × Shape))
  /-- The tag of a table, and what stands under the names that are known for this tag. -/
  | tagged (tag : String) (known : String → List String)

namespace Shape

/-- What a path of names leads to in a document. -/
def at? : Shape → List String → Document → Option Document
  | _, [], document => some document
  | record known, name :: path, document =>
      match known.lookup name, document.part? (known.map Prod.fst) name with
      | some inner, some part => inner.at? path part
      | _, _ => none
  | _, _ :: _, _ => none

theorem lookup_of_mem {known : List (String × Shape)} (h : (known.map Prod.fst).Nodup)
    {name : String} {inner : Shape} (hmem : (name, inner) ∈ known) :
    known.lookup name = some inner := by
  induction known with
  | nil => cases hmem
  | cons entry known ih =>
      obtain ⟨hfirst, hnodup⟩ := List.nodup_cons.mp h
      rcases List.mem_cons.mp hmem with rfl | hlater
      · exact List.lookup_cons_self
      · have hne : name ≠ entry.1 := fun heq => hfirst (heq ▸ List.mem_map_of_mem hlater)
        rw [List.lookup_cons, beq_eq_false_iff_ne.mpr hne]
        exact ih hnodup hlater

/-- A change that makes no difference to a reader: fields of a record come in another order, a field
with a name that is not known is gone, or there is such a change within a part. -/
inductive Immaterial : Shape → Document → Document → Prop where
  | order {known : List (String × Shape)} {fields others : List (String × Document)}
      (hnodup : (fields.map Prod.fst).Nodup) (hperm : fields.Perm others) :
      Immaterial (record known) (.table fields) (.table others)
  | unknown {known : List (String × Shape)} {before after : List (String × Document)}
      {name : String} {extra : Document} (hname : name ∉ known.map Prod.fst) :
      Immaterial (record known) (.table (before ++ (name, extra) :: after))
        (.table (before ++ after))
  | field {known : List (String × Shape)} {before after : List (String × Document)}
      {name : String} {inner : Shape} {part other : Document} (hname : (name, inner) ∈ known)
      (h : Immaterial inner part other) :
      Immaterial (record known) (.table (before ++ (name, part) :: after))
        (.table (before ++ (name, other) :: after))
  | position {known : List (String × Shape)} {items : List Document} {i : Nat} {name : String}
      {inner : Shape} {part other : Document} (hname : known[i]? = some (name, inner))
      (hitem : items[i]? = some part) (h : Immaterial inner part other) :
      Immaterial (record known) (.list items) (.list (items.set i other))
  | item {inner : Shape} {items : List Document} {i : Nat} {part other : Document}
      (hitem : items[i]? = some part) (h : Immaterial inner part other) :
      Immaterial (list inner) (.list items) (.list (items.set i other))
  | taggedOrder {tag : String} {known : String → List String}
      {fields others : List (String × Document)} (hnodup : (fields.map Prod.fst).Nodup)
      (hperm : fields.Perm others) :
      Immaterial (tagged tag known) (.table fields) (.table others)
  | taggedUnknown {tag : String} {known : String → List String}
      {before after : List (String × Document)} {name : String} {extra : Document}
      (htag : name ≠ tag)
      (hname : ∀ kind, Document.field? (before ++ after) tag = some (.text kind) →
        name ∉ known kind) :
      Immaterial (tagged tag known) (.table (before ++ (name, extra) :: after))
        (.table (before ++ after))

/-- Documents that immaterial changes turn into one another. -/
def Alike (shape : Shape) : Document → Document → Prop := Relation.EqvGen shape.Immaterial

/-- A reader looks at nothing else than its shape says. -/
def Covers {α : Type} (shape : Shape) (read : Document → α) : Prop :=
  ∀ document other, shape.Immaterial document other → read document = read other

theorem Covers.eq_of_alike {α : Type} {shape : Shape} {read : Document → α} (h : shape.Covers read)
    {document other : Document} (halike : shape.Alike document other) :
    read document = read other := by
  induction halike with
  | rel document other himmaterial => exact h document other himmaterial
  | refl document => rfl
  | symm document other _ ih => exact ih.symm
  | trans document middle other _ _ ihfirst ihsecond => exact ihfirst.trans ihsecond

theorem covers_value {α : Type} (read : Document → α) : value.Covers read := nofun

theorem Covers.list {α : Type} {item : Shape} {decode : Document → Option α}
    (h : item.Covers decode) : (list item).Covers (Document.list? decode) := by
  intro document other hchange
  cases hchange with
  | @item _ items i part other hitem hinner =>
      obtain ⟨hi, rfl⟩ := List.getElem?_eq_some_iff.mp hitem
      have hmap : (items.set i other).map decode = items.map decode := by
        rw [List.map_set, ← h _ other hinner, ← List.getElem_map decode, List.set_getElem_self]
        rwa [List.length_map]
      have hmapM (items : List Document) : items.mapM decode = (items.map decode).mapM id := by
        rw [List.mapM_map]
        rfl
      rw [Document.list?, Document.list?, hmapM items, ← hmap, hmapM]

theorem rel_refl (inner : Shape) (part : Option Document) :
    Option.Rel (Relation.ReflGen inner.Immaterial) part part := by
  cases part with
  | none => exact .none
  | some part => exact .some .refl

/-- Under each known name a record has the same, or what is changed immaterially. -/
theorem Immaterial.part? {known : List (String × Shape)} {document other : Document}
    (h : (record known).Immaterial document other) (hnodup : (known.map Prod.fst).Nodup)
    {name : String} {inner : Shape} (hmem : (name, inner) ∈ known) :
    Option.Rel (Relation.ReflGen inner.Immaterial) (document.part? (known.map Prod.fst) name)
      (other.part? (known.map Prod.fst) name) := by
  have hunique {key : String} {shape : Shape} (hkey : (key, shape) ∈ known) (heq : key = name) :
      shape = inner :=
    congrArg Prod.snd (List.inj_on_of_nodup_map hnodup hkey hmem heq)
  cases h with
  | order hfields hperm =>
      rw [Document.part?, Document.part?, Document.field?_perm hfields hperm]
      exact rel_refl inner _
  | @unknown _ before after key extra hkey =>
      have hne : key ≠ name := fun heq => hkey (heq ▸ List.mem_map_of_mem hmem)
      rw [Document.part?, Document.part?, Document.field?_unknown hne]
      exact rel_refl inner _
  | @field _ before after key shape part other hkey hinner =>
      rw [Document.part?, Document.part?]
      by_cases hne : key = name
      · obtain rfl := hunique hkey hne
        rw [Document.field?_append, Document.field?_append, Document.field?_cons,
          Document.field?_cons, if_pos hne, if_pos hne]
        cases Document.field? after name with
        | none => exact .some (.single hinner)
        | some later => exact rel_refl shape _
      · rw [Document.field?_unknown hne, Document.field?_unknown hne]
        exact rel_refl inner _
  | @position _ items i key shape part other hkey hitem hinner =>
      rw [Document.part?, Document.part?, List.getElem?_set]
      split
      · next heq =>
        have hnames : (known.map Prod.fst)[i]? = some key := by rw [List.getElem?_map, hkey]; rfl
        have hname : (known.map Prod.fst)[i]? = some name := by
          rw [heq]
          exact List.getElem?_idxOf (List.mem_map_of_mem hmem)
        obtain rfl :=
          hunique (List.mem_of_getElem? hkey) (Option.some.inj (hnames.symm.trans hname))
        obtain ⟨hi, hpart⟩ := List.getElem?_eq_some_iff.mp hitem
        rw [← heq, hitem, if_pos hi]
        exact .some (.single hinner)
      · exact rel_refl inner _

theorem Immaterial.isRecord_eq {known : List (String × Shape)} {document other : Document}
    (h : (record known).Immaterial document other) (style : DocumentStyle) (mayEndEarly : Bool)
    (count : Nat) :
    document.isRecord style mayEndEarly count = other.isRecord style mayEndEarly count := by
  cases h with
  | order => rfl
  | unknown => rfl
  | field => rfl
  | position => rw [Document.isRecord, Document.isRecord, List.length_set]

/-- A reader that a shape covers makes the same of parts with immaterial changes. -/
theorem Covers.map_eq {α : Type} {inner : Shape} {read : Document → α} (h : inner.Covers read)
    {part other : Option Document}
    (hrel : Option.Rel (Relation.ReflGen inner.Immaterial) part other) :
    part.map read = other.map read := by
  cases hrel with
  | none => rfl
  | some hparts =>
      cases hparts with
      | refl => rfl
      | single hchange => exact congrArg some (h _ _ hchange)

/-- The shape of a record whose parts are plain values. -/
def flat (names : List String) : Shape := record (names.map fun name => (name, value))

theorem map_fst_flat (names : List String) :
    (names.map fun name => (name, value)).map Prod.fst = names := by
  rw [List.map_map]
  exact List.map_id names

theorem covers_record? {names : List String} (hnodup : names.Nodup) (style : DocumentStyle)
    (mayEndEarly : Bool) :
    (flat names).Covers (Document.record? style mayEndEarly names) := by
  intro document other h
  have hparts : (names.map fun name => document.part? names name) =
      names.map fun name => other.part? names name := by
    refine List.map_congr_left fun name hname => ?_
    have hpart := h.part? (by rwa [map_fst_flat]) (List.mem_map_of_mem hname)
    rw [map_fst_flat] at hpart
    simpa using (covers_value id).map_eq hpart
  rw [Document.record?_eq hnodup, Document.record?_eq hnodup, h.isRecord_eq, hparts]

end Shape
end MazeAgent
