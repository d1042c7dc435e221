import AmbientTypes.Text.Affix

namespace AmbientTypes.Package

def coreModules : List String := [
  "_http_agent", "_http_client", "_http_common", "_http_incoming", "_http_outgoing",
  "_http_server", "_stream_duplex", "_stream_passthrough", "_stream_readable",
  "_stream_transform", "_stream_wrap", "_stream_writable", "_tls_common", "_tls_wrap",
  "assert", "async_hooks", "buffer", "child_process", "cluster", "console", "constants",
  "crypto", "dgram", "diagnostics_channel", "dns", "domain", "events", "fs", "http", "http2",
  "https", "inspector", "module", "net", "os", "path", "perf_hooks", "process", "punycode",
  "querystring", "readline", "repl", "stream", "string_decoder", "sys", "timers", "tls",
  "trace_events", "tty", "url", "util", "v8", "vm", "wasi", "worker_threads", "zlib"]

def coreTag : String := "node:"

/-- A core module, a path below one, or anything with the tag of core modules. -/
def isBuiltin (specifier : String) : Bool :=
  Text.startsWith coreTag specifier ||
    coreModules.contains (String.ofList (Text.cut '/' specifier.toList).1)

end AmbientTypes.Package
