-- The application of a robot controller, as marks. Its screens are fixed: those that the controller
-- starts itself, those that edit its configuration, and those that run programs.
import ApkForge.Xml

namespace ApkForge.RobotApplication

/-- The attributes that Android defines, by their names without its name space. -/
def android (attrs : List (String × String)) : List (String × String) :=
  attrs.map fun a => ("android:" ++ a.1, a.2)

/-- The label of a screen, kept with the texts of the app. -/
def label (text : String) : String × String := ("label", "@string/" ++ text)

/-- A screen that turns with the device. -/
def turns : String × String := ("configChanges", "orientation|screenSize")

/-- A screen that other apps may start. -/
def exported : String × String := ("exported", "true")

/-- A mark that only names something. -/
def naming (tag name : String) (indent : Nat) : Mark :=
  .stands indent (Tag.inline tag (android [("name", name)]))

/-! ## Screens -/

/-- A screen: its class, its attributes, and the class whose launch it answers to. -/
structure Screen where
  className : String
  attrs : List (String × String)
  launchedBy : Option String

/-- The filter of a screen that can be launched. -/
def launchFilter (className : String) : List Mark :=
  [.opens 6 (Tag.inline "intent-filter" []).tight,
    naming "action" (className ++ ".intent.action.Launch") 8,
    naming "category" "android.intent.category.DEFAULT" 8,
    .closes 6 "intent-filter"]

/-- A screen as marks. -/
def Screen.marks (s : Screen) : List Mark :=
  .opens 4 (Tag.stacked "activity" (android (("name", s.className) :: s.attrs))).tight ::
    ((s.launchedBy.map launchFilter).getD [] ++ [.closes 4 "activity"])

/-- The screens that the controller starts itself. -/
def controllerScreens : List Screen := [
  ⟨"com.qualcomm.ftccommon.FtcRobotControllerSettingsActivity",
    [label "settings_activity"],
    some "com.qualcomm.ftccommon.FtcRobotControllerSettingsActivity"⟩,
  ⟨"com.qualcomm.ftccommon.configuration.FtcLoadFileActivity",
    [label "configure_activity", turns],
    some "com.qualcomm.ftccommon.configuration.FtcLoadFileActivity"⟩,
  ⟨"com.qualcomm.ftccommon.configuration.ConfigureFromTemplateActivity",
    [label "title_activity_configfromtemplate", turns],
    some "com.qualcomm.ftccommon.configuration.ConfigureFromTemplateActivity"⟩,
  ⟨"com.qualcomm.ftccommon.ViewLogsActivity",
    [label "view_logs_activity", turns],
    some "com.qualcomm.ftccommon.ViewLogsActivity"⟩,
  ⟨"com.qualcomm.ftccommon.configuration.FtcConfigurationActivity",
    [label "AI_title_ftc_configuration_activity", turns],
    none⟩,
  ⟨"com.qualcomm.ftccommon.configuration.FtcNewFileActivity",
    [label "AI_title_ftc_new_file_activity", turns],
    none⟩,
  ⟨"com.qualcomm.ftccommon.ConfigWifiDirectActivity",
    [label "title_activity_config_wifi_direct"],
    none⟩,
  ⟨"com.qualcomm.ftccommon.FtcAdvancedRCSettingsActivity",
    [label "titleAdvancedRCSettings", exported],
    some "com.qualcomm.ftccommon.FtcAdvancedRCSettingsActivity"⟩,
  ⟨"com.qualcomm.ftccommon.FtcLynxFirmwareUpdateActivity",
    [exported],
    some "com.qualcomm.ftccommon.FtcLynxFirmwareUpdateModeActivity"⟩,
  ⟨"com.qualcomm.ftccommon.FtcLynxModuleAddressUpdateActivity",
    [exported],
    some "com.qualcomm.ftccommon.FtcLynxModuleAddressUpdateActivity"⟩,
  ⟨"com.qualcomm.ftccommon.FtcWifiDirectChannelSelectorActivity",
    [label "title_activity_wifi_channel_selector"],
    some "com.qualcomm.ftccommon.FtcWifiDirectChannelSelectorActivity"⟩,
  ⟨"com.qualcomm.ftccommon.FtcWifiDirectRememberedGroupsActivity",
    [label "title_activity_wifi_remembered_groups_editor", exported],
    some "com.qualcomm.ftccommon.FtcWifiDirectRememberedGroupsActivity"⟩,
  ⟨"com.qualcomm.ftccommon.AboutActivity",
    [label "about_activity"],
    some "com.qualcomm.ftccommon.configuration.AboutActivity"⟩]

/-- The screens that run programs. -/
def programScreens : List Screen := [
  ⟨"com.google.blocks.ftcrobotcontroller.ProgrammingModeActivity",
    [turns, label "programming_mode_activity"],
    some "com.google.blocks.ftcrobotcontroller.ProgrammingModeActivity"⟩,
  ⟨"com.google.blocks.ftcdriverstation.RemoteProgrammingModeActivity",
    [turns, label "programming_mode_activity"],
    some "com.google.blocks.ftcdriverstation.RemoteProgrammingModeActivity"⟩,
  ⟨"com.google.blocks.ftcrobotcontroller.BlocksActivity",
    [turns, label "blocks_activity"],
    some "com.google.blocks.ftcrobotcontroller.BlocksActivity"⟩,
  ⟨"org.firstinspires.inspection.RcInspectionActivity",
    [label "inspection_activity", turns],
    some "org.firstinspires.inspection.RcInspectionActivity"⟩]

/-! ## Editors -/

/-- A screen that edits a part of the configuration. It may give way to the keyboard, and its tag
may be roomy. -/
structure Editor where
  unit : String
  label : String
  resizes : Bool
  roomy : Bool

/-- An editor as marks. -/
def Editor.marks (e : Editor) : List Mark :=
  let tag := Tag.stacked "activity" (android [
    ("name", "com.qualcomm.ftccommon.configuration." ++ e.unit),
    turns,
    RobotApplication.label e.label,
    ("windowSoftInputMode", if e.resizes then "stateHidden|adjustResize" else "stateHidden")])
  [.opens 4 { tag with roomy := e.roomy }, .closes 4 "activity"]

/-- The editors. -/
def editors : List Editor := [
  ⟨"EditSwapUsbDevices", "edit_swap_devices_activity", false, false⟩,
  ⟨"EditMotorControllerActivity", "edit_motor_controller_activity", false, false⟩,
  ⟨"EditLegacyMotorControllerActivity", "edit_motor_controller_activity", false, true⟩,
  ⟨"EditMotorListActivity", "edit_motor_controller_activity", false, false⟩,
  ⟨"EditServoControllerActivity", "edit_servo_controller_activity", true, false⟩,
  ⟨"EditLegacyServoControllerActivity", "edit_servo_controller_activity", true, true⟩,
  ⟨"EditServoListActivity", "edit_servo_controller_activity", true, false⟩,
  ⟨"EditLegacyModuleControllerActivity", "edit_legacy_module_controller_activity", true, false⟩,
  ⟨"EditMatrixControllerActivity", "edit_matrix_controller_activity", true, false⟩,
  ⟨"EditDeviceInterfaceModuleActivity",
    "edit_core_device_interface_module_controller_activity", true, false⟩,
  ⟨"EditLynxModuleActivity", "edit_lynx_module_controller_activity", true, true⟩,
  ⟨"EditLynxUsbDeviceActivity", "edit_lynx_usb_device_activity", true, true⟩,
  ⟨"EditPWMDevicesActivity", "edit_pwm_devices_activity", true, false⟩,
  ⟨"EditAnalogInputDevicesActivity", "edit_analog_input_devices_activity", true, false⟩,
  ⟨"EditDigitalDevicesActivity", "edit_digital_devices_activity", true, false⟩,
  ⟨"EditDigitalDevicesActivityLynx", "edit_digital_devices_activity_lynx", true, true⟩,
  ⟨"EditI2cDevicesActivity", "edit_i2c_devices_activity", true, false⟩,
  ⟨"EditI2cDevicesActivityLynx", "edit_i2c_devices_activity", true, true⟩,
  ⟨"EditAnalogOutputDevicesActivity", "edit_analog_output_devices_activity", true, false⟩]

/-! ## The application -/

/-- The tag of the application. -/
def applicationTag : Tag := Tag.stacked "application" (android [
  ("allowBackup", "true"),
  ("largeHeap", "true"),
  ("icon", "@drawable/ic_launcher"),
  label "AI_app_name",
  ("theme", "@style/AI_AppTheme"),
  ("name", "org.firstinspires.ftc.robotcore.internal.RobotApplication")])

/-- The message of an attached device. -/
def deviceAttached : String := "android.hardware.usb.action.USB_DEVICE_ATTACHED"

/-- The screen that the app starts with. It is launched from the desk and by an attached device. -/
def mainScreen : List Mark :=
  [.opens 4 (Tag.stacked "activity" (android [
      ("name", "org.firstinspires.ftc.robotcontroller.internal.FtcRobotControllerActivity"),
      turns,
      label "AI_app_name",
      ("launchMode", "singleTask")])),
    .opens 6 (Tag.inline "intent-filter" []).tight,
    naming "action" "android.intent.action.MAIN" 8,
    naming "category" "android.intent.category.LAUNCHER" 8,
    .closes 6 "intent-filter",
    .opens 6 (Tag.inline "intent-filter" []).tight,
    naming "action" deviceAttached 8,
    .closes 6 "intent-filter",
    .stands 6 (Tag.stacked "meta-data" (android [
      ("name", deviceAttached), ("resource", "@xml/device_filter")])),
    .closes 4 "activity"]

/-- The service of the controller. -/
def service : Mark :=
  .stands 4 (Tag.stacked "service" (android [
    ("name", "com.qualcomm.ftccommon.FtcRobotControllerService"), ("enabled", "true")]))

/-- The receiver of a new device name. -/
def receiver : List Mark :=
  [.opens 4 (Tag.stacked "receiver" (android [
      ("name", "org.firstinspires.inspection.DeviceNameReceiver"),
      ("enabled", "true"),
      exported])).tight,
    .closes 4 "receiver"]

/-- The application from its opening tag on, without its closing tag. -/
def marks : List Mark :=
  .opens 2 applicationTag :: (mainScreen ++ service :: (controllerScreens.flatMap Screen.marks ++
    editors.flatMap Editor.marks ++ programScreens.flatMap Screen.marks ++ receiver))

end ApkForge.RobotApplication
