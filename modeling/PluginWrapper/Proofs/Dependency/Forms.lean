import PluginWrapper.Proofs.Dependency

/-! The two forms in which a document states a dependency, and that each of them is read back. -/
namespace PluginWrapper

theorem Value.IsDependency.perm {fields fields' : List (String × Value)} {x : Dependency}
    (h : (Value.map fields).IsDependency x) (hperm : fields.Perm fields') :
    (Value.map fields').IsDependency x := by
  cases h with
  | table hid hversion hoptional =>
    exact .table (hid.perm hperm) (hversion.perm hperm) (hoptional.perm hperm)

namespace Dependency

theorem ofValueStrict_eq_ok {v : Value} {x : Dependency} :
    ofValueStrict v = .ok x ↔ v.IsDependency x ∧ ∀ items, v = .seq items → items.length ≤ 3 := by
  rw [ofValueStrict, bind_eq_ok]
  simp only [ofValue_eq_ok]
  cases v with
  | seq items =>
    by_cases hlong : 3 < items.length
    · simp [hlong, throw, throwThe, MonadExceptOf.throw]
    · simp [hlong, pure_eq_ok, Nat.le_of_not_lt hlong]
  | map | null | bool | int | float | str => simp [pure_eq_ok]

def items (x : Dependency) : List Value :=
  [.str x.id, .str x.version, .bool x.optional]

/-- The values that the fields behind the id have where they are left off. -/
def defaults : List Value :=
  [.str "", .bool false]

def fieldNames (idName : String) : List String :=
  [idName, "version", "optional"]

variable {x : Dependency} {given left : List Value}

/-- All is given, or all but a default, or the id alone. -/
private theorem given_cases (h : x.items = given ++ left) (hleft : left <:+ defaults) :
    given = x.items ∨ given = [.str x.id, .str x.version] ∧ x.optional = false ∨
      given = [.str x.id] ∧ x.version = "" ∧ x.optional = false := by
  simp only [defaults, List.suffix_cons_iff, List.suffix_nil] at hleft
  obtain rfl | rfl | rfl := hleft
  · have hsplit : [.str x.id] ++ [.str x.version, .bool x.optional] =
        given ++ [.str "", .bool false] := h
    obtain ⟨rfl, htail⟩ := List.append_inj' hsplit rfl
    simp only [List.cons.injEq, Value.str.injEq, Value.bool.injEq] at htail
    exact .inr (.inr ⟨rfl, htail.1, htail.2.1⟩)
  · have hsplit : [.str x.id, .str x.version] ++ [.bool x.optional] = given ++ [.bool false] := h
    obtain ⟨rfl, htail⟩ := List.append_inj' hsplit rfl
    simp only [List.cons.injEq, Value.bool.injEq] at htail
    exact .inr (.inl ⟨rfl, htail.1⟩)
  · exact .inl (by simpa using h.symm)

private theorem isDependency_of_given (h : x.items = given ++ left) (hleft : left <:+ defaults) :
    (Value.seq given).IsDependency x ∧ given.length ≤ 3 := by
  obtain ⟨id, version, optional⟩ := x
  obtain rfl | ⟨rfl, hoptional⟩ | ⟨rfl, hversion, hoptional⟩ := given_cases h hleft
  · exact ⟨.array rfl rfl rfl, Nat.le_refl 3⟩
  · obtain rfl : optional = false := hoptional
    exact ⟨.pair rfl rfl, by simp⟩
  · obtain rfl : version = "" := hversion
    obtain rfl : optional = false := hoptional
    exact ⟨.single rfl, by simp⟩

private theorem isDependency_of_fields (h : x.items = given ++ left) (hleft : left <:+ defaults)
    {idName : String} (hname : idName ∈ ["id", "value"]) :
    (Value.map ((fieldNames idName).zip given)).IsDependency x := by
  obtain ⟨id, version, optional⟩ := x
  rw [← ofFields_eq_ok]
  simp only [List.mem_cons, List.not_mem_nil, or_false] at hname
  obtain rfl | ⟨rfl, hoptional⟩ | ⟨rfl, hversion, hoptional⟩ := given_cases h hleft
  · obtain rfl | rfl := hname <;> rfl
  · obtain rfl : optional = false := hoptional
    obtain rfl | rfl := hname <;> rfl
  · obtain rfl : version = "" := hversion
    obtain rfl : optional = false := hoptional
    obtain rfl | rfl := hname <;> rfl

/-- A tree that states a dependency is read as just that. Each dependency is stated by its table
and by its array, with the id under either name, the fields in any order, and with or without the
defaults at the end. -/
theorem reads_either_form :
    (∀ v x, ofValueStrict v = .ok x ↔
      v.IsDependency x ∧ ∀ items, v = .seq items → items.length ≤ 3) ∧
    ∀ x, ofValueStrict x.toValue = .ok x ∧
      ∀ given left, x.items = given ++ left → left <:+ defaults →
        ofValueStrict (.seq given) = .ok x ∧
        ∀ idName ∈ ["id", "value"], ∀ fields, fields.Perm ((fieldNames idName).zip given) →
          ofValueStrict (.map fields) = .ok x := by
  refine ⟨fun v x => ofValueStrict_eq_ok, fun x => ⟨?_, fun given left h hleft => ⟨?_, ?_⟩⟩⟩
  · have hall : x.items = x.items ++ [] := (List.append_nil _).symm
    have hstates : x.toValue.IsDependency x :=
      isDependency_of_fields hall List.nil_suffix List.mem_cons_self
    exact ofValueStrict_eq_ok.mpr ⟨hstates, nofun⟩
  · obtain ⟨hstates, hlength⟩ := isDependency_of_given h hleft
    refine ofValueStrict_eq_ok.mpr ⟨hstates, ?_⟩
    rintro items ⟨⟩
    exact hlength
  · intro idName hname fields hperm
    have hstates := (isDependency_of_fields h hleft hname).perm hperm.symm
    exact ofValueStrict_eq_ok.mpr ⟨hstates, nofun⟩

end Dependency

end PluginWrapper
