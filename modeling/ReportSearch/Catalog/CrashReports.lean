import ReportSearch.Catalog.Mapping

/-!
# The mapping of crash reports

The mapping that is used when no other is named.
-/

set_option autoImplicit false

namespace ReportSearch.CrashReports

def plain (type : String) : Json := .obj [("type", .str type)]

def keyword : Json := .obj [("type", .str "string"), ("index", .str "not_analyzed")]

/-- Text that is split into words, and kept whole in a second variant. -/
def text (analyzer : String) : Json :=
  .obj [("type", .str "string"), ("analyzer", .str analyzer), ("fields", .obj [("full", keyword)])]

/-- A truth value that is false where it is missing. -/
def flag : Json := .obj [("type", .str "boolean"), ("null_value", .bool false)]

def openObject : Json := .obj [("type", .str "object"), ("dynamic", .bool true)]

def tree (properties : Members) : Json := .obj [("properties", .obj properties)]

def secondsFormat : String := "yyyy-MM-dd'T'HH:mm:ssZZ"

def microsFormat : String := "yyyy-MM-dd'T'HH:mm:ss.SSSSSSZZ"

def date (formats : List String) : Json :=
  .obj [("type", .str "date"), ("format", .str ("||".intercalate formats))]

/-- A date that is indexed as a number as well. -/
def dateWithEpoch (formats : List String) (epochFormat : String) : Json :=
  .obj [("type", .str "date"), ("format", .str ("||".intercalate formats)),
    ("fields", .obj [("epoch", date [epochFormat])])]

def defaultColumns : List String :=
  ["uuid", "date_processed", "signature", "product", "version", "platform"]

def properties : Members := [
  ("uuid", keyword),
  ("date_processed", dateWithEpoch [secondsFormat, microsFormat] "epoch_second"),
  ("client_crash_date", dateWithEpoch [secondsFormat, microsFormat] "epoch_second"),
  ("signature", text "semicolon_keywords"), ("proto_signature", text "semicolon_keywords"),
  ("product", keyword), ("version", keyword), ("major_version", plain "integer"),
  ("build_id", keyword), ("build_date", date ["yyyyMMddHHmmss", secondsFormat]),
  ("release_channel", keyword), ("platform", keyword), ("platform_version", keyword),
  ("platform_pretty_version", text "standard"), ("os_name", keyword),
  ("os_version", text "standard"), ("cpu_arch", keyword), ("cpu_info", text "standard"),
  ("cpu_name", keyword), ("cpu_count", plain "integer"), ("cpu_microcode_version", keyword),
  ("reason", text "standard"), ("address", keyword), ("url", text "standard"),
  ("topmost_filenames", text "standard"), ("processor_notes", text "standard"),
  ("user_comments", text "standard"), ("app_notes", text "standard"), ("email", text "standard"),
  ("user_id", keyword), ("distributor", keyword), ("distributor_version", keyword),
  ("addons_checked", flag), ("addons", text "standard"), ("flash_version", keyword),
  ("hangid", keyword), ("hang_type", plain "integer"), ("process_type", plain "string"),
  ("plugin_filename", keyword), ("plugin_name", keyword), ("plugin_version", keyword),
  ("install_age", plain "long"), ("last_crash", plain "long"), ("uptime", plain "long"),
  ("uptime_ts", plain "double"), ("install_time", date ["epoch_second"]),
  ("crash_time", date ["epoch_second"]),
  ("submitted_timestamp", dateWithEpoch [microsFormat, secondsFormat] "epoch_millis"),
  ("started_datetime", date [secondsFormat, microsFormat]),
  ("completed_datetime", date [secondsFormat, microsFormat]), ("success", plain "boolean"),
  ("truncated", plain "boolean"), ("startup_crash", flag), ("safe_mode", flag),
  ("dom_ipc_enabled", flag), ("em_check_compatibility", plain "boolean"),
  ("is_garbage_collecting", flag), ("contains_memory_report", flag), ("accessibility", flag),
  ("useragent_locale", keyword), ("app_init_dlls", keyword), ("adapter_vendor_id", keyword),
  ("adapter_device_id", keyword), ("adapter_subsys_id", keyword),
  ("adapter_driver_version", keyword), ("graphics_critical_error", text "standard"),
  ("graphics_startup_test", text "standard"), ("moz_crash_reason", text "standard"),
  ("abort_message", text "standard"), ("java_stack_trace", text "standard"),
  ("async_shutdown_timeout", text "standard"), ("ipc_channel_error", text "standard"),
  ("ipc_fatal_error_msg", text "standard"), ("ipc_message_name", text "standard"),
  ("shutdown_progress", text "standard"), ("mac_crash_info", text "standard"),
  ("exploitability", keyword), ("b2g_os_version", keyword), ("android_board", keyword),
  ("android_brand", keyword), ("android_cpu_abi", keyword), ("android_device", keyword),
  ("android_display", keyword), ("android_fingerprint", keyword), ("android_hardware", keyword),
  ("android_manufacturer", keyword), ("android_model", keyword), ("android_version", keyword),
  ("bios_manufacturer", keyword), ("available_virtual_memory", plain "long"),
  ("total_virtual_memory", plain "long"), ("available_physical_memory", plain "long"),
  ("total_physical_memory", plain "long"), ("available_page_file", plain "long"),
  ("total_page_file", plain "long"), ("system_memory_use_percentage", plain "integer"),
  ("oom_allocation_size", plain "long"), ("write_combine_size", plain "long"),
  ("largest_free_vm_block", plain "long"), ("tiny_block_size", plain "long"),
  ("number_of_processors", plain "integer"), ("frame_count", plain "integer"),
  ("throttle_rate", plain "double"), ("throttle", plain "integer"), ("throttled_by", keyword),
  ("release_name", keyword), ("theme", keyword), ("product_id", keyword),
  ("remote_type", keyword), ("gmp_plugin", keyword), ("telemetry_environment", plain "string"),
  ("json_dump", openObject), ("memory_report", openObject),
  ("upload_file_minidump_browser", openObject), ("upload_file_minidump_flash1", openObject),
  ("upload_file_minidump_flash2", openObject),
  ("classifications", tree [
    ("skunk_works", tree [
      ("classification", keyword), ("classification_data", keyword),
      ("classification_version", keyword)]),
    ("jit", tree [
      ("category", keyword), ("category_return_code", keyword)])])]

def mapping : Json :=
  .obj [("_meta", .obj [("version", .str "2024.1"), ("default_columns", .ofStrings defaultColumns)]),
    ("properties", .obj properties)]

end ReportSearch.CrashReports
