import SealedPillar.Proofs.Deterministic
import SealedPillar.Proofs.SortedDocuments

/-!
A walk under one top-level key, against the walk over the whole document.

Rewriting under a name the document lacks gives the document back and calls no backend. With a
deterministic backend, whenever the walk over the whole document succeeds, the walk under a name
succeeds too: it writes under the name what the whole walk wrote there, and leaves every other
top-level key as it was.

Identifying under a name files the keys of the name's value under paths rooted at the name, and
the whole report files each key under a path rooted at its own top-level key. When the top-level
keys are nonempty and hold no colon, and the name holds none, the report under the name is the
whole report's entries filed under the name (`element_scope_agrees_with_all`). An empty top-level
key breaks this: the paths below it are joined with no prefix, so they read as paths of other
top-level keys, and a name holding a colon is no top-level key although the whole report files
paths with colons (`element_report_misses_colliding_paths`).
-/

namespace SealedPillar

namespace Walk

section Stateless

variable (o : KeyBackend Id) (d : Document) (name : String)

theorem run_perform_all {a : Action} (rewrites : a.transforms = true) :
    (perform o Tracer.silent d a .all).run =
      Except.map (fun es => Outcome.document ⟨es⟩) (entries o a d.entries).run := by
  rw [perform_silent_all o d rewrites, ExceptT.run_map]
  rfl

theorem perform_all_ok {a : Action} (rewrites : a.transforms = true) {D : Document}
    (whole : (perform o Tracer.silent d a .all).run = .ok (.document D)) :
    Answered o a d.leaves ∧ D = d.mapLeaves (answered o a) := by
  rw [run_perform_all o d rewrites] at whole
  cases walked : (entries o a d.entries).run with
  | error e =>
    rw [walked] at whole
    cases whole
  | ok es =>
    rw [walked] at whole
    obtain ⟨answers, mapped⟩ := entries_ok walked
    cases whole
    exact ⟨answers, congrArg Document.mk mapped⟩

theorem element_rewrite_of_all {a : Action} (rewrites : a.transforms = true) {D : Document}
    (whole : (perform o Tracer.silent d a .all).run = .ok (.document D)) :
    ∃ d', (perform o Tracer.silent d a (.element name)).run = .ok (.document d') ∧
      d'.element name = D.element name ∧ ∀ k, k ≠ name → d'.element k = d.element k := by
  obtain ⟨answers, written⟩ := perform_all_ok o d rewrites whole
  cases found : d.element name with
  | none =>
    refine ⟨d, by rw [perform_silent_element_absent o d rewrites found]; rfl, ?_,
      fun _ _ => rfl⟩
    rw [written, Document.element_mapLeaves, found]
    rfl
  | some v =>
    -- the value's strings are among the document's, so each is answered
    have valueAnswered : Answered o a v.leaves := fun s leaf =>
      answers s (Value.leaves_subset_of_mem (Value.mem_of_lookup found) s leaf)
    refine ⟨⟨Value.insertEntry name (v.mapLeaves (answered o a)) d.entries⟩, ?_, ?_, ?_⟩
    · rw [perform_silent_element o d rewrites found, ExceptT.run_map,
        value_ok_of_answered valueAnswered]
      rfl
    · rw [written, Document.element_mapLeaves, found]
      exact Value.lookup_insertEntry_self name _ d.entries
    · intro k different
      exact Value.lookup_insertEntry_of_ne different _ d.entries

theorem run_perform_identify_all :
    (perform o Tracer.silent d .identify .all).run =
      Except.map Outcome.keys ((Value.topPaths d.entries).foldlM (collectStep o) []).run := by
  rw [perform_silent_identify_all, collectTop_eq_foldlM, ExceptT.run_map]
  rfl

theorem run_perform_identify_element :
    (perform o Tracer.silent d .identify (.element name)).run =
      Except.map Outcome.keys
        ((match d.element name with
          | some v => v.leafPaths name
          | none => []).foldlM (collectStep o) []).run := by
  rw [perform_silent_identify_element, ExceptT.run_map]
  cases d.element name with
  | none => rfl
  | some v =>
    dsimp only
    rw [collect_eq_foldlM]
    rfl

theorem element_report_of_all (d : SortedDocument)
    (keysPlain : ∀ entry ∈ d.entries, entry.1 ≠ "" ∧ ':' ∉ entry.1.toList)
    (namePlain : ':' ∉ name.toList) {report : KeyReport}
    (whole : (perform o Tracer.silent d.toDocument .identify .all).run = .ok (.keys report)) :
    (perform o Tracer.silent d.toDocument .identify (.element name)).run =
      .ok (.keys (report.filter fun entry => ColonPath.isUnder name entry.1)) := by
  rw [run_perform_identify_all] at whole
  cases collected : ((Value.topPaths d.entries).foldlM (collectStep o) []).run with
  | error e =>
    rw [collected] at whole
    cases whole
  | ok found =>
    rw [collected] at whole
    obtain rfl : found = report := by cases whole; rfl
    -- keeping the paths under the name commutes with collecting, and leaves the name's paths
    have kept := foldlM_collectStep_filter o (fun path => ColonPath.isUnder name path) _ [] found
      List.Pairwise.nil collected
    rw [Value.topPaths_filter d.sorted keysPlain namePlain, List.filter_nil] at kept
    rw [run_perform_identify_element]
    exact congrArg (Except.map Outcome.keys) kept

end Stateless

/-- A walk under one top-level name agrees with the whole walk. A name that is missing leaves the
document, with every backend; with a deterministic backend, a rewrite under the name writes there
what the whole rewrite writes and nothing elsewhere; and the report under the name is the whole
report's entries filed under it, for top-level keys that are plain. -/
theorem element_scope_agrees_with_all {σ : Type} {kb : KeyBackend (StateM σ)}
    (det : kb.Deterministic) (name : String) :
    (∀ (d : Document) (a : Action), a.transforms = true → d.element name = none →
      ∀ {m : Type → Type} [Monad m] [LawfulMonad m] (any : KeyBackend m),
        perform any Tracer.silent d a (.element name) = pure (.document d)) ∧
    (∀ (d : Document) (a : Action), a.transforms = true → ∀ (D : Document) (st st' : σ),
      ((perform kb Tracer.silent d a .all).run.run st).1 = .ok (.document D) →
      ∃ d', ((perform kb Tracer.silent d a (.element name)).run.run st').1 = .ok (.document d') ∧
        d'.element name = D.element name ∧ ∀ k, k ≠ name → d'.element k = d.element k) ∧
    (∀ d : SortedDocument, (∀ entry ∈ d.entries, entry.1 ≠ "" ∧ ':' ∉ entry.1.toList) →
      ':' ∉ name.toList → ∀ (report : KeyReport) (st st' : σ),
      ((perform kb Tracer.silent d.toDocument .identify .all).run.run st).1 = .ok (.keys report) →
      ((perform kb Tracer.silent d.toDocument .identify (.element name)).run.run st').1 =
        .ok (.keys (report.filter fun entry => ColonPath.isUnder name entry.1))) := by
  refine ⟨fun d a rewrites absent m _ _ any => perform_silent_element_absent any d rewrites absent,
    ?_, ?_⟩
  · -- both walks give what they give with the backend's answers from the first walk's state
    intro d a rewrites D st st' whole
    rw [perform_frozen det st d a .all st] at whole
    obtain ⟨d', ran, here, elsewhere⟩ := element_rewrite_of_all (kb.frozen st) d name rewrites whole
    exact ⟨d', by rw [perform_frozen det st d a (.element name) st']; exact ran, here, elsewhere⟩
  · intro d keysPlain namePlain report st st' whole
    rw [perform_frozen det st d.toDocument .identify .all st] at whole
    rw [perform_frozen det st d.toDocument .identify (.element name) st']
    exact element_report_of_all (kb.frozen st) name d keysPlain namePlain whole

theorem element_scope_db :
    let d : SortedDocument :=
      { entries := [("db", .mapping [("password", .string "hunter2")]), ("web", .string "x")]
        sorted := by unfold Value.Sorted; decide +kernel }
    (Mock.counting (MockKeys.single "K1")).Deterministic ∧
      (∀ entry ∈ d.entries, entry.1 ≠ "" ∧ ':' ∉ entry.1.toList) ∧ ':' ∉ "db".toList ∧
      (∀ a : Action, a.transforms = true → ∀ (D : Document) (st st' : Nat),
        ((perform (Mock.counting (MockKeys.single "K1")) Tracer.silent d.toDocument a .all).run.run
          st).1 = .ok (.document D) →
        ∃ d', ((perform (Mock.counting (MockKeys.single "K1")) Tracer.silent d.toDocument a
            (.element "db")).run.run st').1 = .ok (.document d') ∧
          d'.element "db" = D.element "db" ∧ ∀ k, k ≠ "db" → d'.element k = d.element k) ∧
      (∀ (report : KeyReport) (st st' : Nat),
        ((perform (Mock.counting (MockKeys.single "K1")) Tracer.silent d.toDocument .identify
          .all).run.run st).1 = .ok (.keys report) →
        ((perform (Mock.counting (MockKeys.single "K1")) Tracer.silent d.toDocument .identify
          (.element "db")).run.run st').1 =
          .ok (.keys (report.filter fun entry => ColonPath.isUnder "db" entry.1))) := by
  intro d
  have det := Mock.counting_deterministic (MockKeys.single "K1")
  have keysPlain : ∀ entry ∈ d.entries, entry.1 ≠ "" ∧ ':' ∉ entry.1.toList := by decide
  have namePlain : ':' ∉ "db".toList := by decide
  obtain ⟨-, rewriting, identifying⟩ := element_scope_agrees_with_all det "db"
  exact ⟨det, keysPlain, namePlain, rewriting d.toDocument, identifying d keysPlain namePlain⟩

/-- The report under a name is not always the whole report's entries filed under the name. Below
an empty top-level key, the message at `b` is filed at the path `b`, which the whole report keeps
although nothing is filed under the top-level key `b`; and a name holding a colon is no top-level
key, so nothing is filed under it, while the whole report files a message at that very path. -/
theorem element_report_misses_colliding_paths :
    let kb := Mock.counting (MockKeys.single "K1")
    let emptyKey : Document :=
      ⟨[("", .mapping [("b", .string (Armor.encode "K1" "x"))]), ("b", .string "x")]⟩
    let nested : Document := ⟨[("a", .mapping [("b", .string (Armor.encode "K1" "x"))])]⟩
    ((perform kb Tracer.silent emptyKey .identify .all).run.run 0).1 = .ok (.keys [("b", "K1")]) ∧
      ((perform kb Tracer.silent emptyKey .identify (.element "b")).run.run 0).1 =
        .ok (.keys []) ∧
      ((perform kb Tracer.silent nested .identify .all).run.run 0).1 =
        .ok (.keys [("a:b", "K1")]) ∧
      ((perform kb Tracer.silent nested .identify (.element "a:b")).run.run 0).1 =
        .ok (.keys []) ∧
      [("b", "K1")].filter (fun entry => ColonPath.isUnder "b" entry.1) = [("b", "K1")] ∧
      [("a:b", "K1")].filter (fun entry => ColonPath.isUnder "a:b" entry.1) = [("a:b", "K1")] := by
  intro kb emptyKey nested
  have plain : Armor.isEncrypted "x" = false := by decide +kernel
  have sealed : Armor.isEncrypted (Armor.encode "K1" "x") = true := Armor.isEncrypted_encode _ _
  have identified : (call (((Mock.counting (MockKeys.single "K1")).frozen 0).keyIdentity
      (Armor.encode "K1" "x"))).run = .ok "K1" := by
    show Except.mapError Error.cipher (Armor.keyOf (Armor.encode "K1" "x")) = _
    rw [Armor.keyOf_encode _ _ (by decide) fun c first => by simp at first; subst first; rfl]
    rfl
  -- the whole report files the message under the empty key's child at the path `b`
  have wholeEmpty : ((perform kb Tracer.silent emptyKey .identify .all).run.run 0).1 =
      .ok (.keys [("b", "K1")]) := by
    rw [perform_frozen (Mock.counting_deterministic _) 0 _ _ _ 0, run_perform_identify_all]
    simp [emptyKey, Value.topPaths, Value.leafPaths, Value.entryPaths, ColonPath.join, collectStep,
      sealed, plain, identified]
    rfl
  -- under `b` there is only the plaintext
  have underEmpty : ((perform kb Tracer.silent emptyKey .identify (.element "b")).run.run 0).1 =
      .ok (.keys []) := by
    rw [perform_frozen (Mock.counting_deterministic _) 0 _ _ _ 0, run_perform_identify_element]
    simp [emptyKey, Document.element, Value.lookup, Value.leafPaths, collectStep, plain]
    rfl
  have wholeNested : ((perform kb Tracer.silent nested .identify .all).run.run 0).1 =
      .ok (.keys [("a:b", "K1")]) := by
    rw [perform_frozen (Mock.counting_deterministic _) 0 _ _ _ 0, run_perform_identify_all]
    simp [nested, Value.topPaths, Value.leafPaths, Value.entryPaths, ColonPath.join, collectStep,
      sealed, identified]
    rfl
  -- no top-level key is `a:b`
  have underNested : ((perform kb Tracer.silent nested .identify (.element "a:b")).run.run 0).1 =
      .ok (.keys []) := by
    rw [perform_frozen (Mock.counting_deterministic _) 0 _ _ _ 0, run_perform_identify_element]
    simp [nested, Document.element, Value.lookup]
    rfl
  exact ⟨wholeEmpty, underEmpty, wholeNested, underNested, by simp [ColonPath.isUnder],
    by simp [ColonPath.isUnder]⟩

end Walk

end SealedPillar
