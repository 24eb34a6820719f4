import Mathlib.Data.List.Basic
import QueryBuilder.Schema.Graph

/-!
# Looking up names

A graph is searched by name from the front.  Where names are distinct, this finds the address of a
name exactly if there is one, and replacing bodies changes nothing about it.
-/

set_option autoImplicit false

namespace QueryBuilder
namespace Schema
namespace TypeGraph

theorem get?_of_lookup_eq_some {g : TypeGraph} {name : String} {id : TypeId}
    (h : g.lookup name = some id) : ∃ t, g.get? id = some t ∧ t.name = name := by
  rw [lookup, Option.map_eq_some_iff] at h
  obtain ⟨i, hi, rfl⟩ := h
  obtain ⟨hlt, hname, -⟩ := List.findIdx?_eq_some_iff_getElem.1 hi
  exact ⟨g.types[i], List.getElem?_eq_getElem hlt, by simpa using hname⟩

theorem lookup_eq_none_iff {g : TypeGraph} {name : String} :
    g.lookup name = none ↔ name ∉ g.types.map (·.name) := by
  rw [lookup, Option.map_eq_none_iff, List.findIdx?_eq_none_iff, List.mem_map]
  constructor
  · rintro h ⟨t, ht, rfl⟩
    simpa using h t ht
  · intro h t ht
    exact beq_eq_false_iff_ne.2 fun hname ↦ h ⟨t, ht, hname⟩

/-- **Where names are distinct, a name is found exactly at the addresses that have it.** -/
theorem lookup_eq_some_iff {g : TypeGraph} (hnodup : (g.types.map (·.name)).Nodup)
    {name : String} {id : TypeId} :
    g.lookup name = some id ↔ ∃ t, g.get? id = some t ∧ t.name = name := by
  refine ⟨get?_of_lookup_eq_some, ?_⟩
  rintro ⟨t, hget, rfl⟩
  have hmem : t.name ∈ g.types.map (·.name) := List.mem_map_of_mem (List.mem_of_getElem? hget)
  obtain ⟨id', hid'⟩ := Option.ne_none_iff_exists'.1 (mt lookup_eq_none_iff.1 (not_not.2 hmem))
  obtain ⟨t', hget', hname⟩ := get?_of_lookup_eq_some hid'
  -- The name stands at both addresses, and it stands in the list of names only once.
  have hlt : id.index < (g.types.map (·.name)).length := by
    simpa using (List.getElem?_eq_some_iff.1 hget).1
  have hindex : id.index = id'.index := by
    refine (List.getElem?_inj hlt hnodup).1 ?_
    rw [get?] at hget hget'
    rw [List.getElem?_map, List.getElem?_map, hget, hget', Option.map_some, Option.map_some, hname]
  rw [hid', show id = id' from congrArg TypeId.mk hindex]

theorem kindOf?_eq_some_iff {g : TypeGraph} {id : TypeId} {kind : TypeKind} :
    g.kindOf? id = some kind ↔ ∃ t, g.get? id = some t ∧ t.kind = kind := by
  rw [kindOf?, Option.map_eq_some_iff]

theorem mem_entries_iff {g : TypeGraph} {id : TypeId} {t : NamedType} :
    (id, t) ∈ g.entries ↔ g.get? id = some t := by
  rw [entries, List.mem_map, get?]
  constructor
  · rintro ⟨⟨t, i⟩, hmem, h⟩
    obtain ⟨rfl, rfl⟩ := Prod.mk.inj h
    exact List.mem_zipIdx_iff_getElem?.1 hmem
  · exact fun h ↦ ⟨(t, id.index), List.mem_zipIdx_iff_getElem?.2 h, rfl⟩

theorem map_snd_entries (g : TypeGraph) : g.entries.map (·.2) = g.types := by
  rw [entries, List.map_map]
  exact List.zipIdx_map_fst 0 g.types

theorem types_setBody_append {g : TypeGraph} {front back : List NamedType} {t : NamedType}
    (h : g.types = front ++ t :: back) (body : TypeBody) :
    (g.setBody ⟨front.length⟩ body).types = front ++ { t with body } :: back := by
  rw [setBody, modify, h, List.modify_eq_take_cons_drop (by simp)]
  simp

end TypeGraph
end Schema
end QueryBuilder
