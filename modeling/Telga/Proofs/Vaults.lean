import Telga.Application.DocumentVault
import Telga.Library.Run

namespace Telga.Proofs.Vaults
open Domain Library Application.DocumentVault

variable {cipher : Aead UInt8} {past : List (Taken Vault VaultEvent)} {vault vault' : Vault}
  {event : VaultEvent} {document : Document}

/-- What was sealed of a document. -/
def boxOf (document : Document) : Box UInt8 :=
  ⟨document.nonce, mediaData document.mediaType, document.content⟩

/-- The cipher is ideal for the files of a vault: whatever opens of one was sealed by the vault. -/
def Ideal (cipher : Aead UInt8) (vault : Vault) : Prop :=
  ∀ handle raw, vault.files.lookup handle = some raw →
    cipher.Authentic nonceBytes tagBytes (vault.documents.map boxOf) raw

/-- What the vault promises after everything that happened to it. -/
structure Keeps (cipher : Aead UInt8) (past : List (Taken Vault VaultEvent)) (vault : Vault) :
    Prop where
  right : ∀ handle mediaType bytes, read cipher vault.files handle mediaType = .ok bytes →
    ∃ document ∈ vault.documents, document.handle = handle ∧ document.mediaType = mediaType ∧
      document.content = bytes
  untouched : (∀ taken ∈ past, ∀ files, taken.event ≠ .changes files) →
    ∀ document ∈ vault.documents,
      read cipher vault.files document.handle document.mediaType = .ok document.content
  takes : ∀ content mediaType nonce newId, mediaType ∈ allowedDocumentTypes →
    1 ≤ content.length → content.length ≤ maxDocumentBytes → safeHandle (newId ++ ".enc") = true →
      ⟨newId ++ ".enc", mediaType, content, nonce⟩ ∈
        (vault.storing cipher content mediaType nonce newId).documents

/-- Every file that is one the vault wrote, and whose name the vault reads, stands for a document
of its own name with the same type and bytes. -/
def Placed (cipher : Aead UInt8) (vault : Vault) : Prop :=
  ∀ handle raw, safeHandle handle = true → vault.files.lookup handle = some raw →
    ∀ document ∈ vault.documents, raw = cipher.packed (boxOf document) →
      ∃ own ∈ vault.documents, own.handle = handle ∧ own.mediaType = document.mediaType ∧
        own.content = document.content

/-- What is known of every document. -/
structure Stored (document : Document) : Prop where
  safe : safeHandle document.handle = true
  full : document.content ≠ []
  sized : document.nonce.length = nonceBytes

theorem mediaData_inj {mediaType other : String} (same : mediaData mediaType = mediaData other) :
    mediaType = other := by
  have texts := congrArg utf8Text same
  unfold mediaData at texts
  rw [utf8Text_bytes, utf8Text_bytes] at texts
  exact String.toList_inj.mp texts

theorem storing_cases (content nonce : Bytes) (mediaType newId : String) :
    vault.storing cipher content mediaType nonce newId = vault ∨
      content ≠ [] ∧ safeHandle (newId ++ ".enc") = true ∧
        vault.storing cipher content mediaType nonce newId =
          ⟨vault.files.put (newId ++ ".enc") (cipher.packed ⟨nonce, mediaData mediaType, content⟩),
            vault.documents ++ [⟨newId ++ ".enc", mediaType, content, nonce⟩]⟩ := by
  unfold Vault.storing
  split
  · rename_i files stored done
    obtain ⟨_, full, _, safe, rfl, rfl⟩ := store_ok.mp done
    exact .inr ⟨full, safe, rfl⟩
  · exact .inl rfl

/-- What one step keeps of the documents, all of them and those it adds. -/
theorem stored_step (vault : Vault) (event : VaultEvent) (vault' : Vault)
    (known : ∀ document ∈ vault.documents, Stored document)
    (step : VaultStep cipher vault event vault') :
    ∀ document ∈ vault'.documents, Stored document := by
  cases step with
  | changes => exact known
  | stores sized fresh =>
    rename_i content nonce mediaType newId
    rcases @storing_cases cipher vault content nonce mediaType newId with same | ⟨full, safe, added⟩
    · rw [same]
      exact known
    · rw [added]
      intro document mem
      rcases List.mem_append.mp mem with before | last
      · exact known document before
      · cases List.mem_singleton.mp last
        exact ⟨safe, full, sized⟩

/-- Every run of a vault over a directory that was empty. -/
abbrev VaultRun (cipher : Aead UInt8) : List (Taken Vault VaultEvent) → Vault → Prop :=
  Run (fun vault => vault = emptyVault) (VaultStep cipher)

theorem run_stored (run : VaultRun cipher past vault) :
    ∀ document ∈ vault.documents, Stored document :=
  run.invariant (I := fun vault => ∀ document ∈ vault.documents, Stored document)
    (fun _ begins => by rw [begins]; simp [emptyVault]) stored_step

/-- Where nobody changed the directory, the file of each document is as it was written. -/
theorem run_untouched (run : VaultRun cipher past vault)
    (none : ∀ taken ∈ past, ∀ files, taken.event ≠ .changes files) :
    ∀ document ∈ vault.documents,
      vault.files.lookup document.handle = some (cipher.packed (boxOf document)) := by
  induction run with
  | start begins =>
    rw [begins]
    simp [emptyVault]
  | @step past vault event vault' earlier step ih =>
    have ih := ih fun taken mem => none taken (List.mem_cons_of_mem _ mem)
    have now := none _ List.mem_cons_self
    cases step with
    | changes => exact absurd rfl (now _)
    | stores sized fresh =>
      rename_i content nonce mediaType newId
      rcases @storing_cases cipher vault content nonce mediaType newId with same | ⟨_, _, added⟩
      · rw [same]
        exact ih
      · rw [added]
        intro document mem
        rcases List.mem_append.mp mem with before | last
        · rw [Entries.lookup_put_other (fresh document before)]
          exact ih document before
        · cases List.mem_singleton.mp last
          exact Entries.lookup_put

/-- The vault keeps what it promises exactly as long as no file it wrote stands under the name of
another document. -/
theorem vault_keeps (lawful : cipher.Lawful nonceBytes tagBytes)
    (run : VaultRun cipher past vault) (ideal : Ideal cipher vault) :
    Keeps cipher past vault ↔ Placed cipher vault := by
  have known := run_stored run
  have opens : ∀ document ∈ vault.documents,
      cipher.unpack nonceBytes tagBytes (cipher.packed (boxOf document))
        (mediaData document.mediaType) = some document.content :=
    fun document mem => lawful.unpack_packed (known document mem).sized
  constructor
  · intro keeps handle raw safe found document mem same
    have reads : read cipher vault.files handle document.mediaType = .ok document.content :=
      read_ok.mpr ⟨safe, raw, found, by rw [same]; exact opens document mem⟩
    exact keeps.right handle document.mediaType document.content reads
  · intro placed
    constructor
    · intro handle mediaType bytes reads
      obtain ⟨safe, raw, found, opened⟩ := read_ok.mp reads
      have sized : ∀ box ∈ vault.documents.map boxOf, box.nonce.length = nonceBytes :=
        List.forall_mem_map.mpr fun document mem => (known document mem).sized
      have full : ∀ box ∈ vault.documents.map boxOf, box.plain ≠ [] :=
        List.forall_mem_map.mpr fun document mem => (known document mem).full
      obtain ⟨box, listed, same, data, plain⟩ :=
        (ideal handle raw found).packed lawful sized full opened
      obtain ⟨document, mem, rfl⟩ := List.mem_map.mp listed
      obtain ⟨own, mem', named, typed, bytes'⟩ := placed handle raw safe found document mem same
      refine ⟨own, mem', named, ?_, ?_⟩
      · rw [typed]
        exact mediaData_inj data
      · rw [bytes']
        exact plain
    · intro none document mem
      have found := run_untouched run none document mem
      exact read_ok.mpr ⟨(known document mem).safe, _, found, opens document mem⟩
    · intro content mediaType nonce newId allowed full small safe
      have filled : content ≠ [] := List.ne_nil_of_length_pos full
      have listed : isAllowedMediaType mediaType = true := decide_eq_true allowed
      have done := (@store_ok cipher vault.files _ content nonce mediaType newId _).mpr
        ⟨listed, filled, small, safe, rfl, rfl⟩
      unfold Vault.storing
      rw [done]
      exact List.mem_append_right _ (List.mem_singleton_self _)

/-- A tag that tells photographs from all other data, and short texts under one nonce apart. -/
def shortTag (nonce data text : Bytes) : Bytes :=
  (((if data = mediaData "image/jpeg" then 0 else 1) :: nonce ++ text) ++
    List.replicate tagBytes 0).take tagBytes

/-- A cipher that hides nothing, under such a tag. -/
def shortCipher : Aead UInt8 where
  encrypt nonce data text := (text, shortTag nonce data text)
  decrypt nonce data text tag := if tag = shortTag nonce data text then some text else none

theorem shortCipher_lawful : shortCipher.Lawful nonceBytes tagBytes where
  opens _ _ _ _ := if_pos rfl
  sized _ _ _ := rfl
  tagged nonce data text := by
    change (shortTag nonce data text).length = tagBytes
    unfold shortTag
    rw [List.length_take, List.length_append, List.length_replicate]
    omega

/-- A photograph's file opens as the photograph it is. -/
theorem photograph_authentic {documents : List Document} (mem : document ∈ documents)
    (sized : document.nonce.length = nonceBytes) (typed : document.mediaType = "image/jpeg") :
    shortCipher.Authentic nonceBytes tagBytes (documents.map boxOf)
      (shortCipher.packed (boxOf document)) := by
  intro data text opened
  have whole := shortCipher_lawful.tagged document.nonce (mediaData document.mediaType)
    document.content
  have nonce := @Aead.packed_take _ shortCipher nonceBytes (boxOf document) sized
  have rest := @Aead.packed_drop _ shortCipher nonceBytes (boxOf document) sized
  have tag : ((shortCipher.packed (boxOf document)).drop nonceBytes).take tagBytes =
      shortTag document.nonce (mediaData document.mediaType) document.content := by
    rw [rest, ← whole]
    exact List.take_left
  have ciphertext : (shortCipher.packed (boxOf document)).drop (nonceBytes + tagBytes) =
      document.content := by
    rw [← List.drop_drop, rest, ← whole]
    exact List.drop_left
  refine ⟨boxOf document, List.mem_map_of_mem mem, ?_, nonce.symm, ciphertext.symm, ?_⟩
  · unfold Aead.unpack at opened
    rw [nonce, tag, ciphertext] at opened
    have tags : shortTag document.nonce (mediaData document.mediaType) document.content =
        shortTag document.nonce data document.content := by
      by_contra differs
      have refused : shortCipher.decrypt document.nonce data document.content
          (shortTag document.nonce (mediaData document.mediaType) document.content) = none :=
        if_neg differs
      have opened : shortCipher.decrypt document.nonce data document.content
          (shortTag document.nonce (mediaData document.mediaType) document.content) = some text :=
        opened
      rw [refused] at opened
      cases opened
    have first := congrArg List.head? tags
    have photo : data = mediaData "image/jpeg" := by
      by_contra other
      rw [typed] at first
      simp [shortTag, tagBytes, other] at first
    rw [photo]
    exact congrArg mediaData typed
  · rw [tag]
    exact List.prefix_refl _

/-- A photograph, by the number of the one byte that it is. -/
def photograph (number : UInt8) (name : String) : Document :=
  ⟨name ++ ".enc", "image/jpeg", [number], List.replicate nonceBytes number⟩

def photographFile (number : UInt8) : Bytes :=
  shortCipher.packed (boxOf (photograph number ""))

/-- The vault two photographs were stored in, over some directory. -/
def filled (files : Files) : Vault :=
  ⟨files, [photograph 1 "doc_1", photograph 2 "doc_2"]⟩

/-- Whatever the directory is changed to after that. -/
theorem filled_run (files : Files) : ∃ past, VaultRun shortCipher past (filled files) := by
  have opening : VaultRun shortCipher [] emptyVault := .start rfl
  have first : emptyVault.storing shortCipher [1] "image/jpeg" (List.replicate nonceBytes 1) "doc_1" =
      ⟨[("doc_1.enc", photographFile 1)], [photograph 1 "doc_1"]⟩ := by
    rfl
  have one : VaultStep shortCipher emptyVault
      (.stores [1] "image/jpeg" (List.replicate nonceBytes 1) "doc_1")
      ⟨[("doc_1.enc", photographFile 1)], [photograph 1 "doc_1"]⟩ := by
    rw [← first]
    exact .stores rfl (by simp [emptyVault])
  have second : Vault.storing shortCipher
      ⟨[("doc_1.enc", photographFile 1)], [photograph 1 "doc_1"]⟩ [2] "image/jpeg"
      (List.replicate nonceBytes 2) "doc_2" =
      filled [("doc_1.enc", photographFile 1), ("doc_2.enc", photographFile 2)] := by
    rfl
  have two : VaultStep shortCipher ⟨[("doc_1.enc", photographFile 1)], [photograph 1 "doc_1"]⟩
      (.stores [2] "image/jpeg" (List.replicate nonceBytes 2) "doc_2")
      (filled [("doc_1.enc", photographFile 1), ("doc_2.enc", photographFile 2)]) := by
    rw [← second]
    exact .stores rfl (by decide)
  exact ⟨_, ((opening.step one).step two).step .changes⟩

/-- A file of a photograph is authentic where the photograph was stored. -/
theorem photographFile_authentic (number : UInt8) (files : Files)
    (mem : ∃ name, photograph number name ∈ (filled files).documents) :
    shortCipher.Authentic nonceBytes tagBytes ((filled files).documents.map boxOf)
      (photographFile number) := by
  obtain ⟨name, mem⟩ := mem
  have authentic := photograph_authentic mem (List.length_replicate ..) rfl
  exact authentic

theorem mem_of_lookup {files : Files} {handle : String} {raw : Bytes}
    (found : files.lookup handle = some raw) : (handle, raw) ∈ files := by
  obtain ⟨before, after, split, _⟩ := List.lookup_eq_some_iff.mp found
  have split : files = before ++ (handle, raw) :: after := split
  rw [split]
  exact List.mem_append_right _ List.mem_cons_self

/-- The files of the two photographs change places. -/
def swapped : Files :=
  [("doc_1.enc", photographFile 2), ("doc_2.enc", photographFile 1)]

theorem swapped_ideal : Ideal shortCipher (filled swapped) := by
  intro handle raw found
  have listed : (handle, raw) ∈ swapped := mem_of_lookup found
  simp only [swapped, List.mem_cons, Prod.mk.injEq, List.not_mem_nil, or_false] at listed
  rcases listed with ⟨_, rfl⟩ | ⟨_, rfl⟩
  · exact photographFile_authentic 2 swapped ⟨"doc_2", by decide⟩
  · exact photographFile_authentic 1 swapped ⟨"doc_1", by decide⟩

/-- Under the name of the first one, the second is read then. -/
theorem swapped_misread : ¬ ∀ cipher past vault, cipher.Lawful nonceBytes tagBytes →
    VaultRun cipher past vault → Ideal cipher vault → Keeps cipher past vault := by
  intro keeps
  obtain ⟨past, run⟩ := filled_run swapped
  have kept := keeps shortCipher past (filled swapped) shortCipher_lawful run swapped_ideal
  obtain ⟨document, mem, named, _, content⟩ := kept.right "doc_1.enc" "image/jpeg" [2] (by decide)
  revert named content
  revert document
  decide

/-- The first photograph's file is cut short, and the second's is left alone. -/
def cut : Files :=
  [("doc_1.enc", (photographFile 1).take 20), ("doc_2.enc", photographFile 2)]

/-- A file that has no whole tag does not open. -/
theorem cut_ideal : Ideal shortCipher (filled cut) := by
  intro handle raw found
  have listed : (handle, raw) ∈ cut := mem_of_lookup found
  simp only [cut, List.mem_cons, Prod.mk.injEq, List.not_mem_nil, or_false] at listed
  rcases listed with ⟨_, rfl⟩ | ⟨_, rfl⟩
  · intro data text opened
    have short : (((photographFile 1).take 20).drop nonceBytes).take tagBytes ≠
        shortTag (((photographFile 1).take 20).take nonceBytes) data
          (((photographFile 1).take 20).drop (nonceBytes + tagBytes)) := by
      intro same
      have sizes := congrArg List.length same
      have whole : (shortTag (((photographFile 1).take 20).take nonceBytes) data
          (((photographFile 1).take 20).drop (nonceBytes + tagBytes))).length = tagBytes :=
        shortCipher_lawful.tagged _ _ _
      rw [whole] at sizes
      revert sizes
      decide
    have refused : shortCipher.unpack nonceBytes tagBytes ((photographFile 1).take 20) data =
        none := if_neg short
    rw [refused] at opened
    cases opened
  · exact photographFile_authentic 2 cut ⟨"doc_2", by decide⟩

theorem cut_placed : Placed shortCipher (filled cut) := by
  intro handle raw safe found document mem same
  have listed : (handle, raw) ∈ cut := mem_of_lookup found
  simp only [cut, List.mem_cons, Prod.mk.injEq, List.not_mem_nil, or_false] at listed
  rcases listed with ⟨_, rfl⟩ | ⟨rfl, rfl⟩
  · have short : ∀ document ∈ (filled cut).documents,
        (photographFile 1).take 20 ≠ shortCipher.packed (boxOf document) := by
      decide
    exact absurd same (short document mem)
  · refine ⟨photograph 2 "doc_2", by decide, rfl, ?_⟩
    revert same
    revert document
    decide

/-- What is left of the first is never read as anything else. -/
theorem vault_keeps_cut : ∃ past, Keeps shortCipher past (filled cut) := by
  obtain ⟨past, run⟩ := filled_run cut
  exact ⟨past, (vault_keeps shortCipher_lawful run cut_ideal).mpr cut_placed⟩

end Telga.Proofs.Vaults
