import LineShell.Payload

/-!
# Bodies of payloads

The JSON values in which a backend gives its answers.
-/

namespace LineShell

def PingAnswer.body (answer : PingAnswer) : Json :=
  .object [("success", .bool answer.success), ("message", .string answer.message)]

def SystemInfo.body (info : SystemInfo) : Json :=
  .object [("os", .string info.os), ("hostname", .string info.host), ("kernel", .string info.kernel),
    ("uptime", .string info.uptime), ("memory", .string info.memory)]

def Health.body (health : Health) : Json :=
  .object [("status", .string health.status), ("message", .string health.message),
    ("timestamp", .string health.timestamp)]

def Json.ofOption (write : α → Json) : Option α → Json
  | none => .null
  | some value => write value

def EntityList.body (entities : EntityList) : Json :=
  .object [("code", .ofOption .int entities.code), ("success", .bool entities.success),
    ("data", .ofOption (fun names => .array (names.map Json.string)) entities.names)]

end LineShell
