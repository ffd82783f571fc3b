import Mathlib.Data.List.Forall2
import Leasehold.Json

/-! The fields of a record. An object gives a field by its name, wherever it stands and whatever else the object
holds, and an array gives it by its place. -/
namespace Leasehold.Json

/-- What an object has under a name, under which it has nothing else. -/
inductive Once (members : List (String × Json)) (name : String) : Option Json → Prop where
  | absent (missing : ∀ member ∈ members, member.1 ≠ name) : Once members name none
  | present {value : Json} (before after : List (String × Json))
      (split : members = before ++ (name, value) :: after)
      (missing : ∀ member ∈ before ++ after, member.1 ≠ name) : Once members name (some value)

/-- What a value gives for the fields with these names. -/
inductive Gives (names : List String) : Json → List (Option Json) → Prop where
  | named {members : List (String × Json)} {found : List (Option Json)}
      (each : List.Forall₂ (Once members) names found) : Gives names (.record members) found
  | placed {items : List Json} (short : items.length ≤ names.length) :
      Gives names (.array items)
        (items.map some ++ List.replicate (names.length - items.length) none)

section
variable {members : List (String × Json)} {name : String} {names : List String} {json : Json}
variable {found : List (Option Json)}

/-- A list is mapped when each of its elements is. -/
theorem mapM_eq_some {α β : Type} {f : α → Option β} {list : List α} {made : List β} :
    list.mapM f = some made ↔ List.Forall₂ (fun a b => f a = some b) list made := by
  induction list generalizing made with
  | nil =>
    rw [List.mapM_nil, List.forall₂_nil_left_iff]
    exact Option.some_inj.trans eq_comm
  | cons a list ih =>
    rw [List.mapM_cons, List.forall₂_cons_left_iff]
    simp only [Option.bind_eq_bind, Option.bind_eq_some_iff, Option.pure_def, Option.some.injEq, ih]
    constructor
    · rintro ⟨b, first, rest, others, rfl⟩
      exact ⟨b, rest, first, others, rfl⟩
    · rintro ⟨b, rest, first, others, rfl⟩
      exact ⟨b, first, rest, others, rfl⟩

theorem exists_of_forall₂ {α β : Type} {R : α → β → Prop} {list : List α} {made : List β} {a : α}
    (each : List.Forall₂ R list made) (member : a ∈ list) : ∃ b, R a b := by
  induction each with
  | nil => cases member
  | cons first _ ih =>
    rcases List.mem_cons.mp member with rfl | later
    · exact ⟨_, first⟩
    · exact ih later

theorem filter_record (members : List (String × Json)) (name : String) :
    (members.map fun (name, value) => (some name, value)).filter (fun (found, _) => found == some name) =
      (members.filter (·.1 = name)).map fun (name, value) => (some name, value) := by
  rw [List.filter_map]
  congr 2

/-- An object is asked for a name that it has at most once. -/
theorem single?_eq_some {value : Option Json} :
    single? (members.map fun (name, value) => (some name, value)) name = some value ↔
      Once members name value := by
  have missing (list : List (String × Json)) :
      list.filter (·.1 = name) = [] ↔ ∀ member ∈ list, member.1 ≠ name := by
    simp [List.filter_eq_nil_iff]
  rw [single?, filter_record]
  constructor
  · intro read
    generalize only : members.filter (·.1 = name) = found at read
    rcases found with _ | ⟨⟨key, value⟩, _ | ⟨next, others⟩⟩
    · cases read
      exact .absent ((missing members).mp only)
    · cases read
      obtain ⟨before, after, split, front, same, back⟩ := List.filter_eq_cons_iff.mp only
      obtain rfl : key = name := by simpa using same
      refine .present before after split ?_
      intro member isMember
      rcases List.mem_append.mp isMember with isMember | isMember
      · simpa using front member isMember
      · exact (missing after).mp back member isMember
    · cases read
  · intro once
    cases once with
    | absent nowhere => rw [(missing members).mpr nowhere, List.map_nil]
    | @present value before after split nowhere =>
      have front := (missing before).mpr fun member isMember =>
        nowhere member (List.mem_append_left _ isMember)
      have back := (missing after).mpr fun member isMember =>
        nowhere member (List.mem_append_right _ isMember)
      rw [split, List.filter_append, front, List.filter_cons_of_pos (by simp), back]
      rfl

/-- A record with distinct names gives each of its members once. -/
theorem once_record (members : List (String × Json)) (distinct : (members.map Prod.fst).Nodup) :
    List.Forall₂ (Once members) (members.map Prod.fst) (members.map fun member => some member.2) := by
  rw [List.forall₂_map_left_iff, List.forall₂_map_right_iff, List.forall₂_same]
  intro member isMember
  obtain ⟨before, after, rfl⟩ := List.append_of_mem isMember
  refine .present before after rfl ?_
  rw [List.map_append, List.map_cons] at distinct
  have fresh := (List.nodup_cons.mp (List.perm_middle.nodup_iff.mp distinct)).1
  rw [← List.map_append] at fresh
  rintro other isOther same
  exact fresh (same ▸ List.mem_map_of_mem isOther)

/-- An object whose names are all texts is a record. -/
theorem object_of_texts {members : List (Option String × Json)}
    (texts : members.all (fun (name, _) => name.isSome) = true) :
    ∃ pairs, Json.object members = .record pairs := by
  refine ⟨members.map fun (name, value) => (name.getD "", value), ?_⟩
  rw [record, List.map_map]
  congr 1
  refine ((List.map_congr_left fun member isMember => ?_).trans (List.map_id members)).symm
  obtain ⟨name, value⟩ := member
  obtain ⟨text, rfl⟩ := Option.isSome_iff_exists.mp (List.all_eq_true.mp texts _ isMember)
  rfl

/-- The fields of a record are what the value gives for them. -/
theorem fields?_eq_some : json.fields? names = some found ↔ Gives names json found := by
  constructor
  · intro read
    cases json with
    | object members =>
      rw [fields?] at read
      split at read
      · rename_i texts
        obtain ⟨pairs, same⟩ := object_of_texts texts
        cases same
        exact .named ((mapM_eq_some.mp read).imp fun _ _ => single?_eq_some.mp)
      · cases read
    | array items =>
      rw [fields?] at read
      split at read
      · rename_i short
        cases read
        exact .placed short
      · cases read
    | null | bool | number | string => cases read
  · intro gives
    cases gives with
    | named each =>
      have texts (members : List (String × Json)) :
          (members.map fun (name, value) => (some name, value)).all (fun (name, _) => name.isSome) =
            true := by
        rw [List.all_map, List.all_eq_true]
        exact fun _ _ => rfl
      rw [record, fields?, if_pos (texts _)]
      exact mapM_eq_some.mpr (each.imp fun _ _ => single?_eq_some.mpr)
    | placed short => rw [fields?, if_pos short]

end

end Leasehold.Json
