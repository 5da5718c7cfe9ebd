import RemoteCall.Client.State

/-!
# What telling leaves alone

A notice that is told, kept for the holder of a promise or lost changes the record of what was told,
the events, the mailbox and the pool. The equations below say so of each operation at once: in a
structure that is updated only in these fields everything else is as it was.
-/
namespace RemoteCall.Client

theorem deliver_eq (client : Client) (notice : Notice) :
    client.deliver notice = { client with
      told := notice :: client.told
      pool := (client.deliver notice).pool
      events := (client.deliver notice).events
      mailbox := (client.deliver notice).mailbox } := by
  unfold deliver
  cases notice.delivery with
  | callback => rfl
  | promise =>
    simp only [keep, releaseAll]
    split <;> rfl

theorem deliverAll_eq (client : Client) (notices : List Notice) :
    client.deliverAll notices = { client with
      told := notices.reverse ++ client.told
      pool := (client.deliverAll notices).pool
      events := (client.deliverAll notices).events
      mailbox := (client.deliverAll notices).mailbox } := by
  induction notices generalizing client with
  | nil => rfl
  | cons notice later ih =>
    have hcons : client.deliverAll (notice :: later) =
        (client.deliver notice).deliverAll later := rfl
    rw [hcons, ih (client.deliver notice), deliver_eq, List.reverse_cons, List.append_assoc]
    rfl

theorem foldl_lose_eq (client : Client) (requests : List Request) :
    requests.foldl lose client = { client with
      pool := (requests.foldl lose client).pool
      events := (requests.foldl lose client).events
      mailbox := (requests.foldl lose client).mailbox } := by
  induction requests generalizing client with
  | nil => rfl
  | cons request later ih =>
    rw [List.foldl_cons, ih (client.lose request)]
    simp only [lose, keep, releaseAll]
    split
    · rfl
    · split <;> rfl

theorem collect_eq (client : Client) (ticket : Nat) :
    (client.collect ticket).2 = { client with
      pool := (client.collect ticket).2.pool
      mailbox := (client.collect ticket).2.mailbox } := by
  unfold collect
  split <;> rfl

theorem forget_eq (client : Client) (ticket : Nat) :
    client.forget ticket = { client with
      pool := (client.forget ticket).pool
      mailbox := (client.forget ticket).mailbox
      forgotten := ticket :: client.forgotten } := by
  unfold forget
  rw [collect_eq]

end RemoteCall.Client
