import ClawNet.Json.Roundtrip

namespace ClawNet.Json

open ClawNet.Http

mutual
/-- No object repeats a key, at any depth: what a Python `dict` is. -/
def keysDistinct : Json → Bool
  | .null | .bool _ | .num _ | .str _ => true
  | .arr xs => keysDistinctElements xs
  | .obj kvs => decide (kvs.map Prod.fst).Nodup && keysDistinctMembers kvs

def keysDistinctElements : List Json → Bool
  | [] => true
  | x :: xs => keysDistinct x && keysDistinctElements xs

def keysDistinctMembers : List (String × Json) → Bool
  | [] => true
  | (_, v) :: kvs => keysDistinct v && keysDistinctMembers kvs
end

mutual
/-- Every number is an integer. -/
def integral : Json → Bool
  | .null | .bool _ | .str _ => true
  | .num q => q.den == 1
  | .arr xs => integralElements xs
  | .obj kvs => integralMembers kvs

def integralElements : List Json → Bool
  | [] => true
  | x :: xs => integral x && integralElements xs

def integralMembers : List (String × Json) → Bool
  | [] => true
  | (_, v) :: kvs => integral v && integralMembers kvs
end

mutual
theorem plainValue_eq : ∀ v, plainValue v = (keysDistinct v && integral v)
  | .null | .bool _ | .str _ => rfl
  | .num q => (Bool.true_and _).symm
  | .arr xs => by rw [plainValue, keysDistinct, integral, plainElements_eq]
  | .obj kvs => by rw [plainValue, keysDistinct, integral, plainMembers_eq, Bool.and_assoc]

theorem plainElements_eq : ∀ xs, plainElements xs = (keysDistinctElements xs && integralElements xs)
  | [] => rfl
  | x :: xs => by
    rw [plainElements, keysDistinctElements, integralElements, plainValue_eq, plainElements_eq,
      Bool.and_assoc, Bool.and_left_comm (integral x), ← Bool.and_assoc]

theorem plainMembers_eq : ∀ kvs, plainMembers kvs = (keysDistinctMembers kvs && integralMembers kvs)
  | [] => rfl
  | (_, v) :: kvs => by
    rw [plainMembers, keysDistinctMembers, integralMembers, plainValue_eq, plainMembers_eq,
      Bool.and_assoc, Bool.and_left_comm (integral v), ← Bool.and_assoc]
end

theorem keysDistinctElements_append (xs ys : List Json) :
    keysDistinctElements (xs ++ ys) = (keysDistinctElements xs && keysDistinctElements ys) := by
  induction xs with
  | nil => rfl
  | cons x xs ih => rw [List.cons_append, keysDistinctElements, keysDistinctElements, ih, Bool.and_assoc]

theorem keysDistinctMembers_iff {kvs : List (String × Json)} :
    keysDistinctMembers kvs ↔ ∀ kv ∈ kvs, keysDistinct kv.2 := by
  induction kvs with
  | nil => simp [keysDistinctMembers]
  | cons kv kvs ih => simp [keysDistinctMembers, ih]

section DictSet

variable {α : Type} {acc : List (String × α)} {k : String} {v : α}

theorem map_fst_dictSet_of_mem (h : acc.any (·.1 == k)) : (dictSet acc k v).map Prod.fst = acc.map Prod.fst := by
  rw [dictSet, if_pos h, List.map_map]
  exact List.map_congr_left fun kv _ => by by_cases hk : kv.1 = k <;> simp [hk]

theorem nodup_dictSet (h : (acc.map Prod.fst).Nodup) : ((dictSet acc k v).map Prod.fst).Nodup := by
  by_cases hk : acc.any (·.1 == k)
  · rwa [map_fst_dictSet_of_mem hk]
  · rw [dictSet, if_neg hk, List.map_append]
    refine List.pairwise_append.2 ⟨h, List.pairwise_singleton _ _, ?_⟩
    simp only [List.map_cons, List.map_nil, List.mem_singleton, List.mem_map]
    rintro _ ⟨kv, hkv, rfl⟩ _ rfl rfl
    exact hk (List.any_eq_true.2 ⟨kv, hkv, by simp⟩)

theorem mem_dictSet {kv : String × α} (h : kv ∈ dictSet acc k v) : kv ∈ acc ∨ kv = (k, v) := by
  unfold dictSet at h
  split at h
  · obtain ⟨kv', hkv', rfl⟩ := List.mem_map.1 h
    by_cases hk : kv'.1 = k
    · exact .inr (if_pos hk)
    · exact .inl (by rwa [if_neg hk])
  · simpa using h

end DictSet

theorem keysDistinct_scanKeyword {cs r : List Char} {v : Json} (h : scanKeyword cs = some (v, r)) :
    keysDistinct v := by
  unfold scanKeyword at h
  split_ifs at h <;> cases h <;> rfl

theorem keysDistinctMembers_dictSet {acc : List (String × Json)} {k : String} {v : Json}
    (hacc : keysDistinctMembers acc) (hv : keysDistinct v) : keysDistinctMembers (dictSet acc k v) :=
  keysDistinctMembers_iff.2 fun kv hkv => by
    rcases mem_dictSet hkv with h | rfl
    · exact keysDistinctMembers_iff.1 hacc kv h
    · exact hv

mutual
theorem keysDistinct_scanValue : ∀ (n : Nat) (cs : List Char) (v : Json) (r : List Char),
    scanValue n cs = some (v, r) → keysDistinct v
  | 0, _, _, _, h => by cases h
  | _ + 1, [], _, _, h => by cases h
  | n + 1, c :: rest, v, r, h => by
    rw [scanValue] at h
    split at h
    · obtain ⟨p, -, hp⟩ := Option.map_eq_some'.1 h
      rw [← (Prod.mk.inj hp).1]
      rfl
    split at h
    · dsimp only at h
      split at h
      · rw [← (Prod.mk.inj (Option.some.inj h)).1]
        rfl
      · exact keysDistinct_scanMembers n [] _ v r List.nodup_nil rfl h
    split at h
    · dsimp only at h
      split at h
      · rw [← (Prod.mk.inj (Option.some.inj h)).1]
        rfl
      · exact keysDistinct_scanElements n [] _ v r rfl h
    split at h
    · rename_i hk
      exact keysDistinct_scanKeyword (hk.trans h)
    · obtain ⟨p, -, hp⟩ := Option.map_eq_some'.1 h
      rw [← (Prod.mk.inj hp).1]
      rfl

theorem keysDistinct_scanElements : ∀ (n : Nat) (acc : List Json) (cs : List Char) (v : Json) (r : List Char),
    keysDistinctElements acc → scanElements n acc cs = some (v, r) → keysDistinct v
  | 0, _, _, _, _, _, h => by cases h
  | n + 1, acc, cs, v, r, hacc, h => by
    rw [scanElements] at h
    split at h
    · cases h
    · rename_i x r' hx
      have hacc' : keysDistinctElements (acc ++ [x]) := by
        rw [keysDistinctElements_append, hacc, keysDistinctElements, keysDistinct_scanValue n cs x r' hx]
        rfl
      split at h
      · rw [← (Prod.mk.inj (Option.some.inj h)).1]
        exact hacc'
      · exact keysDistinct_scanElements n _ _ v r hacc' h
      · cases h

theorem keysDistinct_scanMembers : ∀ (n : Nat) (acc : List (String × Json)) (cs : List Char) (v : Json)
    (r : List Char), (acc.map Prod.fst).Nodup → keysDistinctMembers acc → scanMembers n acc cs = some (v, r) →
      keysDistinct v
  | 0, _, _, _, _, _, _, h => by cases h
  | _ + 1, _, [], _, _, _, _, h => by cases h
  | n + 1, acc, c :: rest, v, r, hnd, hacc, h => by
    rw [scanMembers] at h
    split at h
    · split at h
      · cases h
      · split at h
        · split at h
          · cases h
          · rename_i x r' hx
            have hx' := keysDistinct_scanValue n _ x r' hx
            split at h
            · rw [← (Prod.mk.inj (Option.some.inj h)).1, keysDistinct, Bool.and_eq_true, decide_eq_true_eq]
              exact ⟨nodup_dictSet hnd, keysDistinctMembers_dictSet hacc hx'⟩
            · exact keysDistinct_scanMembers n _ _ v r (nodup_dictSet hnd) (keysDistinctMembers_dictSet hacc hx') h
            · cases h
        · cases h
    · cases h
end

theorem keysDistinct_loads {s : String} {v : Json} (h : loads s = some v) : keysDistinct v := by
  unfold loads decode at h
  split at h
  · cases h
  · split at h
    · rename_i v' r hv
      split at h
      · rw [← Option.some.inj h]
        exact keysDistinct_scanValue _ _ v' r hv
      · cases h
    · cases h

variable (o : DumpsOptions) (fr : ℚ → String)

/-- Whatever `json.loads` returns with integral numbers, written back with `json.dumps` under
whitespace separators, reads back as itself: a value a call received can be sent on unchanged,
a key the text repeated included, which reads back with its first place and its last value. -/
theorem loads_dumps_of_loads (hs : separatorsOk o) {s : String} {v : Json} (h : loads s = some v)
    (hint : integral v) : loads (dumps o fr v) = some v :=
  loads_dumps o fr hs (by rw [plainValue_eq, keysDistinct_loads h, hint]; rfl)

theorem loads_dumps_of_loads_repeated :
    separatorsOk {} = true ∧
      loads "\x7b\"to\": \"a\", \"amount\": [1, \x7b\"to\": 2\x7d], \"to\": \"b\"\x7d" =
        some (.obj [("to", .str "b"), ("amount", .arr [.num 1, .obj [("to", .num 2)]])]) ∧
      integral (.obj [("to", .str "b"), ("amount", .arr [.num 1, .obj [("to", .num 2)]])]) ∧
      loads (dumps {} (fun _ => "") (.obj [("to", .str "b"), ("amount", .arr [.num 1, .obj [("to", .num 2)]])])) =
        some (.obj [("to", .str "b"), ("amount", .arr [.num 1, .obj [("to", .num 2)]])]) :=
  have h : loads "\x7b\"to\": \"a\", \"amount\": [1, \x7b\"to\": 2\x7d], \"to\": \"b\"\x7d" =
      some (.obj [("to", .str "b"), ("amount", .arr [.num 1, .obj [("to", .num 2)]])]) := rfl
  ⟨by decide, h, by decide, loads_dumps_of_loads {} _ (by decide) h (by decide)⟩

end ClawNet.Json
