import Mathlib.Data.List.Induction
import PresenceSeal.Proofs.Platform.Interleaving

/-! Races at a keyring in memory. However the steps of errands interleave, a key pair is
never put in the place of another, and a signature is made with the key pair that was opened. -/
namespace PresenceSeal

open Signature (Ed25519.KeyPair)

namespace Traffic

variable {traffic : Traffic} {tag : String} {pair : Ed25519.KeyPair}

theorem after_append (turns rest : List Nat) (traffic : Traffic) :
    traffic.after (turns ++ rest) = (traffic.after turns).after rest :=
  List.foldl_append

theorem passages_append (turns rest : List Nat) (traffic : Traffic) :
    traffic.passages (turns ++ rest) =
      traffic.passages turns ++ (traffic.after turns).passages rest := by
  induction turns generalizing traffic with
  | nil => rfl
  | cons i turns ih => exact congrArg (⟨traffic, i⟩ :: ·) (ih (traffic.turn i))

/-- Where the passages of a run are split, its turns are. -/
theorem split_passages {turns : List Nat} {earlier later : List Passage}
    (split : traffic.passages turns = earlier ++ later) :
    ∃ front back, turns = front ++ back ∧ earlier = traffic.passages front ∧
      later = (traffic.after front).passages back := by
  induction earlier generalizing traffic turns with
  | nil => exact ⟨[], turns, rfl, rfl, split.symm⟩
  | cons p earlier ih =>
    cases turns with
    | nil => cases split
    | cons i turns =>
      obtain ⟨rfl, rest⟩ := List.cons.inj split
      obtain ⟨front, back, rfl, rfl, rfl⟩ := ih rest
      exact ⟨i :: front, back, rfl, rfl, rfl⟩

/-- As long as it is not deleted, a key pair stays in the store. -/
theorem kept_of_no_deletion {turns : List Nat} (held : traffic.store.find? tag = some pair)
    (survives : ∀ p ∈ traffic.passages turns, ¬ p.Deletes tag) :
    (traffic.after turns).store.find? tag = some pair := by
  induction turns generalizing traffic with
  | nil => exact held
  | cons i rest ih =>
    rcases Passage.kept (p := ⟨traffic, i⟩) held with same | ⟨deletes, -⟩
    · exact ih same fun p member => survives p (List.mem_cons_of_mem _ member)
    · exact absurd deletes (survives _ List.mem_cons_self)

/-- Where a passage stands in a run. -/
theorem split_passage {turns : List Nat} {earlier later : List Passage} {p : Passage}
    (run : traffic.passages turns = earlier ++ p :: later) :
    ∃ front back, earlier = traffic.passages front ∧ p.before = traffic.after front ∧
      later = p.after.passages back ∧ turns = front ++ p.turn :: back := by
  obtain ⟨front, back, rfl, first, rest⟩ := split_passages run
  cases back with
  | nil => cases rest
  | cons i back =>
    obtain ⟨rfl, rfl⟩ := List.cons.inj rest
    exact ⟨front, back, first, rfl, rfl, rfl⟩

theorem deletion_between {turns : List Nat} {earlier middle later : List Passage} {p q : Passage}
    (run : traffic.passages turns = earlier ++ p :: (middle ++ q :: later))
    (first : p.Creates tag) (second : q.Creates tag) : ∃ d ∈ middle, d.Deletes tag := by
  obtain ⟨_, back, -, -, rest, -⟩ := split_passage run
  obtain ⟨front, _, rfl, between, -, -⟩ := split_passage rest.symm
  obtain ⟨-, pair, installed⟩ := first.inserted
  have held : p.after.store.find? tag = some pair := by
    rw [installed, Store.find?_insert_self]
  by_contra survives
  have still := kept_of_no_deletion held fun d member deletes => survives ⟨d, member, deletes⟩
  rw [← between, second.inserted.1] at still
  cases still

/-- There is a key pair under a tag if it has been there from the start or has been created,
and has not been deleted since. -/
theorem present_iff (turns : List Nat) :
    (traffic.after turns).store.find? tag ≠ none ↔
      (traffic.store.find? tag ≠ none ∧ ∀ p ∈ traffic.passages turns, ¬ p.Deletes tag) ∨
      ∃ earlier p later, traffic.passages turns = earlier ++ p :: later ∧ p.Creates tag ∧
        ∀ q ∈ later, ¬ q.Creates tag ∧ ¬ q.Deletes tag := by
  constructor
  · induction turns using List.reverseRecOn with
    | nil => exact fun present => .inl ⟨present, nofun⟩
    | append_singleton turns i ih =>
      rw [after_append, passages_append]
      intro present
      rcases Passage.present_iff (p := ⟨traffic.after turns, i⟩).mp present with
        creates | ⟨before, survives⟩
      · exact .inr ⟨_, _, [], rfl, creates, nofun⟩
      · have idle : ¬ Passage.Creates ⟨traffic.after turns, i⟩ tag :=
          fun creates => before creates.inserted.1
        rcases ih before with ⟨start, kept⟩ | ⟨earlier, p, later, run, created, kept⟩
        · refine .inl ⟨start, fun p member => ?_⟩
          rcases List.mem_append.mp member with member | member
          · exact kept p member
          · rwa [List.mem_singleton.mp member]
        · refine .inr ⟨earlier, p, later ++ [⟨traffic.after turns, i⟩], ?_, created, ?_⟩
          · rw [run, List.append_assoc]
            rfl
          · intro q member
            rcases List.mem_append.mp member with member | member
            · exact kept q member
            · rw [List.mem_singleton.mp member]
              exact ⟨idle, survives⟩
  · rintro (⟨start, kept⟩ | ⟨earlier, p, later, run, creates, kept⟩)
    · obtain ⟨pair, held⟩ := Option.ne_none_iff_exists'.mp start
      rw [kept_of_no_deletion held kept]
      nofun
    · obtain ⟨front, back, -, before, rfl, rfl⟩ := split_passage run
      obtain ⟨-, pair, installed⟩ := creates.inserted
      have held : p.after.store.find? tag = some pair := by
        rw [installed, Store.find?_insert_self]
      have still := kept_of_no_deletion held fun q member => (kept q member).2
      rw [after_append, ← before]
      exact Option.ne_none_iff_exists'.mpr ⟨pair, still⟩

theorem mem_launch_iff {s : Surroundings Station} {errands : List Errand} {flight : Flight} :
    flight ∈ (launch s errands).flights ↔ ∃ errand ∈ errands, ⟨errand, .waiting⟩ = flight :=
  List.mem_map

theorem opened_origin {s : Surroundings Station} {errands : List Errand} {turns : List Nat}
    {i : Nat} (opened : ((launch s errands).after turns).opened? i = some pair) :
    ∃ o ∈ (launch s errands).passages turns, o.turn = i ∧
      ∃ tag, o.Comes (.openCredential tag) (.opened pair) ∧
        o.before.store.find? tag = some pair := by
  induction turns using List.reverseRecOn with
  | nil =>
    obtain ⟨errand, found⟩ := opened?_eq_some_iff.mp opened
    obtain ⟨first, -, begun⟩ := mem_launch_iff.mp (List.mem_of_getElem? found)
    cases begun
  | append_singleton turns j ih =>
    rw [after_append] at opened
    rw [passages_append]
    rcases Passage.opened_cases (p := ⟨(launch s errands).after turns, j⟩) opened with
      before | ⟨turned, tag, comes, held⟩
    · obtain ⟨o, member, origin⟩ := ih before
      exact ⟨o, List.mem_append_left _ member, origin⟩
    · exact ⟨_, List.mem_append_right _ (List.mem_singleton.mpr rfl), turned, tag, comes, held⟩

end Traffic

/-- What holds of every run of errands, whatever they are and in whatever order they take
their turns. -/
structure Traffic.Orderly (start : Traffic) (turns : List Nat) : Prop where
  /-- A creation succeeds only where its insertion finds the tag free. -/
  fresh : ∀ p ∈ start.passages turns, ∀ tag, p.Creates tag →
    p.before.store.find? tag = none ∧ ∃ pair, p.after.store = p.before.store.insert tag pair
  /-- A key pair is never replaced: it stays as it is or is deleted. -/
  kept : ∀ p ∈ start.passages turns, ∀ tag pair, p.before.store.find? tag = some pair →
    p.after.store.find? tag = some pair ∨ (p.Deletes tag ∧ p.after.store.find? tag = none)
  /-- Between two creations under one tag there is a deletion. -/
  between : ∀ earlier p middle q later tag,
    start.passages turns = earlier ++ p :: (middle ++ q :: later) →
    p.Creates tag → q.Creates tag → ∃ d ∈ middle, d.Deletes tag
  /-- A creation that finds its tag taken is refused, when it looks for the first time and
  when it comes back with consent and a new key pair; the store stays as it is. -/
  lost : ∀ p ∈ start.passages turns, ∀ tag prompt, p.before.store.find? tag ≠ none →
    (p.before.flights[p.turn]? = some ⟨.create tag prompt, .waiting⟩ ∨
      p.before.flights[p.turn]? = some ⟨.create tag prompt, .approved⟩ ∧
        32 ≤ p.before.surroundings.entropy.bytes.length) →
    p.Comes (.create tag prompt) (.refused .credentialAlreadyExists) ∧
      p.after.store = p.before.store
  /-- Nothing else touches the store. -/
  spared : ∀ p ∈ start.passages turns, (∀ tag, ¬ p.Creates tag ∧ ¬ p.Deletes tag) →
    p.after.store = p.before.store
  /-- A key pair is there exactly if the last creation has not been followed by a deletion, or
  if it has been there from the start and never been deleted. -/
  present : ∀ tag, (start.after turns).store.find? tag ≠ none ↔
    (start.store.find? tag ≠ none ∧ ∀ p ∈ start.passages turns, ¬ p.Deletes tag) ∨
    ∃ earlier p later, start.passages turns = earlier ++ p :: later ∧ p.Creates tag ∧
      ∀ q ∈ later, ¬ q.Creates tag ∧ ¬ q.Deletes tag
  /-- A signature is made with the key pair that its credential was opened with. -/
  signed : ∀ earlier p later opening challenge prompt signature,
    start.passages turns = earlier ++ p :: later →
    p.Comes (.sign opening challenge prompt) (.signed signature) →
    ∃ o ∈ earlier, o.turn = opening ∧ ∃ tag pair, o.Comes (.openCredential tag) (.opened pair) ∧
      o.before.store.find? tag = some pair ∧ signature.bytes = (pair.sign challenge).val

namespace Passage

theorem lost_of_taken {p : Passage} {tag : String} {prompt : Prompt}
    (present : p.before.store.find? tag ≠ none)
    (looks : p.before.flights[p.turn]? = some ⟨.create tag prompt, .waiting⟩ ∨
      p.before.flights[p.turn]? = some ⟨.create tag prompt, .approved⟩ ∧
        32 ≤ p.before.surroundings.entropy.bytes.length) :
    p.Comes (.create tag prompt) (.refused .credentialAlreadyExists) ∧
      p.after.store = p.before.store := by
  have taken : p.before.surroundings.device.store.contains tag = true := by
    rw [Store.contains, Option.isSome_iff_ne_none]
    exact present
  rcases looks with found | ⟨found, enough⟩
  · have ran : ((Errand.create tag prompt).step p.before.opened? .waiting).run
        p.before.surroundings = (.refused .credentialAlreadyExists, p.before.surroundings) := by
      rw [Errand.step, Errand.run_via, Station.run_checkFree, taken]
      rfl
    obtain ⟨turned, comes⟩ := comes_of_step found ran
    exact ⟨comes (by rintro ⟨⟩), by rw [turned]; rfl⟩
  · have ran : ((Errand.create tag prompt).step p.before.opened? .approved).run
        p.before.surroundings =
          (.refused .credentialAlreadyExists,
            Station.atSource.set ⟨p.before.surroundings.entropy.bytes.drop 32⟩
              p.before.surroundings) := by
      rw [Errand.step, Errand.run_via, Station.run_install, Entropy.draw?_of_le enough, taken]
      rfl
    obtain ⟨turned, comes⟩ := comes_of_step found ran
    exact ⟨comes (by rintro ⟨⟩), by rw [turned]; rfl⟩

end Passage

/-- Errands at a keyring in memory are orderly, in whatever state they find it, however many
there are and however their steps interleave. -/
theorem errands_are_orderly (s : Surroundings Station) (errands : List Errand)
    (turns : List Nat) : (Traffic.launch s errands).Orderly turns where
  fresh _ _ _ creates := creates.inserted
  kept _ _ _ _ held := Passage.kept held
  between _ _ _ _ _ _ run first second := Traffic.deletion_between run first second
  lost _ _ _ _ present looks := Passage.lost_of_taken present looks
  spared p _ idle := by
    rcases p.store_cases with same | ⟨tag, creates⟩ | ⟨tag, deletes⟩
    · exact same
    · exact absurd creates (idle tag).1
    · exact absurd deletes (idle tag).2
  present _ := Traffic.present_iff turns
  signed earlier p later opening challenge prompt signature run comes := by
    obtain ⟨front, back, rfl, before, -, -⟩ := Traffic.split_passage run
    obtain ⟨phase, new, -, goes⟩ := comes.goes
    obtain ⟨pair, opened, rfl⟩ := goes.signature new
    rw [before] at opened
    obtain ⟨o, member, turned, tag, came, held⟩ := Traffic.opened_origin opened
    exact ⟨o, member, turned, tag, pair, came, held, rfl⟩

/-- Two creations under one tag, step by step in turns: both find it free and are approved, and
the second finds it taken in the end. -/
example :
    let source : Entropy := ⟨List.replicate 64 7⟩
    let creation : Errand := .create "t" {}
    let traffic :=
      Traffic.launch ⟨{ desk := { gate := .autoApprove } }, source⟩ [creation, creation]
    (traffic.after [0, 1, 0, 1, 0, 1, 0, 1]).flights =
      [⟨creation, .created⟩, ⟨creation, .refused .credentialAlreadyExists⟩] := by
  rfl

end PresenceSeal
